import CounterMachine.Library.Arithmetic

/-!
# The catalog of programs

A catalog keeps programs under names, each with the tapes on which it starts for two inputs.
Entries are added and never changed or removed; once a catalog is frozen, none are added either.
-/

namespace CounterMachine.Library

/-- A program and the tapes on which it starts for the inputs `x` and `y`. -/
structure Entry where
  program : Program
  counters : Int → Int → List Int

/-- Named programs in the order of their registration. -/
structure Catalog where
  entries : List (String × Entry)
  frozen : Bool

namespace Catalog

/-- Why a catalog refuses. -/
inductive Error where
  | frozen
  | registered (key : String)
  | unknown (key : String)
  deriving DecidableEq

def Error.message : Error → String
  | .frozen => "Cannot register programs: registry is frozen"
  | .registered key => "Program already registered: " ++ key
  | .unknown key => "Unknown program: " ++ key

def entry (catalog : Catalog) (key : String) : Except Error Entry :=
  match catalog.entries.lookup key with
  | some entry => .ok entry
  | none => .error (.unknown key)

/-- Add an entry. Being frozen is reported before a name that is taken. -/
def register (catalog : Catalog) (key : String) (entry : Entry) : Except Error Catalog :=
  if catalog.frozen then .error .frozen
  else if (catalog.entries.lookup key).isSome then .error (.registered key)
  else .ok { catalog with entries := catalog.entries ++ [(key, entry)] }

/-- Close the catalog to further entries. -/
def freeze (catalog : Catalog) : Catalog :=
  { catalog with frozen := true }

/-- All names, ascending by code point. -/
def keys (catalog : Catalog) : List String :=
  (catalog.entries.map Prod.fst).mergeSort fun left right => decide (left ≤ right)

def build (catalog : Catalog) (key : String) : Except Error Program :=
  (catalog.entry key).map Entry.program

/-- The machine from which the program of a name starts for two inputs. -/
def initialMachine (catalog : Catalog) (key : String) (x y : Int) : Except Error Machine :=
  (catalog.entry key).map fun entry => { counters := entry.counters x y }

/-- The arithmetic programs, still open to further entries. -/
def arithmetic : Catalog where
  entries := [
    ("adder", ⟨adderProgram, adderCounters⟩),
    ("mult", ⟨multiplierProgram, multiplierCounters⟩),
    ("six_rule_mult", ⟨sixRuleMultiplierProgram, sixRuleMultiplierCounters⟩)]
  frozen := false

/-- The catalog that the command line and the playground offer. -/
def standard : Catalog :=
  arithmetic.freeze

/-- Something asked of a catalog. -/
inductive Operation where
  | register (key : String) (entry : Entry)
  | freeze
  | build (key : String)
  | initialMachine (key : String) (x y : Int)
  | keys
  | isFrozen

/-- What a catalog answers. -/
inductive Reply where
  | done
  | program (program : Program)
  | machine (machine : Machine)
  | keys (keys : List String)
  | truth (value : Bool)
  deriving DecidableEq

/-- Carry out an operation. One that fails leaves the catalog as it was. -/
def perform (catalog : Catalog) : Operation → Except Error Reply × Catalog
  | .register key entry =>
      match catalog.register key entry with
      | .error error => (.error error, catalog)
      | .ok extended => (.ok .done, extended)
  | .freeze => (.ok .done, catalog.freeze)
  | .build key => ((catalog.build key).map .program, catalog)
  | .initialMachine key x y => ((catalog.initialMachine key x y).map .machine, catalog)
  | .keys => (.ok (.keys catalog.keys), catalog)
  | .isFrozen => (.ok (.truth catalog.frozen), catalog)

end Catalog

end CounterMachine.Library
