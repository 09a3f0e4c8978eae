/-!
# Indexes from either end

An index below zero counts from the end of a list, the last entry being `-1`. An index that meets
no entry on either count has no position. What is said about it depends on its size: an index is
addressable if it is a 64-bit signed integer. A row can be laid out if its length is addressable
and there is room for it.
-/

namespace CounterMachine

variable {α : Type}

/-- The position that an index means in a list of the given length. -/
def position? (length : Nat) (index : Int) : Option Nat :=
  let position := if index < 0 then index + length else index
  if 0 ≤ position ∧ position < length then some position.toNat else none

def entry? (entries : List α) (index : Int) : Option α :=
  (position? entries.length index).bind fun position => entries[position]?

/-- Replace the entry at an index. -/
def setEntry? (entries : List α) (index : Int) (value : α) : Option (List α) :=
  (position? entries.length index).map fun position => entries.set position value

/-- Replace the first `count` entries by others, which may be more or fewer. A count below zero
spares that many entries at the end. -/
def spliceFront (entries : List α) (count : Int) (front : List α) : List α :=
  let removed := if count < 0 then (count + entries.length).toNat else count.toNat
  front ++ entries.drop removed

def maxIndex : Int := 9223372036854775807

def isAddressable (index : Int) : Bool :=
  decide (-maxIndex - 1 ≤ index) && decide (index ≤ maxIndex)

def unaddressableMessage : String := "cannot fit 'int' into an index-sized integer"

/-- Wording for an index that meets no entry; `entries` is what the entries are called. -/
def missingEntryMessage (entries : String) (index : Int) : String :=
  if isAddressable index then entries ++ " index out of range" else unaddressableMessage

/-- Why a row cannot be laid out. -/
inductive RowError where
  | unaddressable
  | outOfMemory
  deriving DecidableEq

/-- Wording of a row error. Running out of memory has none. -/
def RowError.message : RowError → String
  | .unaddressable => unaddressableMessage
  | .outOfMemory => ""

/-- Why no row of the given length can be laid out where there is room for `room` entries. A length
below zero counts as zero, but has to be addressable. -/
def rowError? (room length : Int) : Option RowError :=
  if !isAddressable length then some .unaddressable
  else if room < length then some .outOfMemory
  else none

/-- An index inside the list is its own position. -/
@[simp] theorem position?_natCast {length index : Nat} (inside : index < length) :
    position? length (index : Int) = some index := by
  have nonneg : ¬ (index : Int) < 0 := by omega
  simp [position?, nonneg, inside]

end CounterMachine
