import CounterMachine.Index
import CounterMachine.Program

/-!
# Machines

A machine is where a run stands: the control state and the counters. This module says when a rule
applies to a machine, what firing it does, and which rule of a program fires: the first that
applies.

Firing keeps to two rules of safety. No counter may exceed `maxValue`, and no counter may end below
zero. For a program and a machine that fit each other only the first can be broken.
-/

namespace CounterMachine

/-- A control state and one counter per tape. -/
structure Machine where
  state : Int := 0
  counters : List Int := []
  deriving DecidableEq

/-- What trying a rule comes to. Only an applied rule changes the machine. -/
inductive Outcome where
  | applied
  | wrongState
  | guardUnsatisfied
  deriving DecidableEq

/-- Why a rule cannot be tried or fired. -/
inductive Fault where
  /-- The rule addresses more or fewer tapes than there are. -/
  | widthMismatch
  /-- The first tape whose counter would exceed `maxValue`, and the value it would have. -/
  | overflow (tape : Nat) (value : Int)
  /-- A counter has become negative. -/
  | belowZero
  deriving DecidableEq

def Fault.message : Fault → String
  | .widthMismatch => "rule width does not match tape count"
  | .overflow tape value =>
      "Tape " ++ Text.Numeral.text tape ++ " overflows 32-bit range: " ++ Text.Numeral.text value
  | .belowZero => "tape moved below zero"

/-- The message of a fault, unless its number is too long to be shown. -/
def Fault.message? (fault : Fault) : Option String :=
  match fault with
  | .overflow _ value => Text.Numeral.showing? [value] fault.message
  | .widthMismatch | .belowZero => some fault.message

/-- The lowest tape whose counter exceeds `maxValue`. -/
def firstOverflow? (counters : List Int) : Option Fault :=
  counters.zipIdx.findSome? fun (value, tape) =>
    if maxValue < value then some (.overflow tape value) else none

namespace Rule

/-- Whether every guarded counter holds at least the guarded amount. -/
def guardsHold (rule : Rule) (counters : List Int) : Bool :=
  (counters.zip rule.adjustments).all fun (counter, amount) =>
    decide (0 ≤ amount) || decide (-amount ≤ counter)

/-- The counters with the adjustments added, tape by tape as far as both go. -/
def adjust (rule : Rule) (counters : List Int) : List Int :=
  List.zipWith (· + ·) counters rule.adjustments

end Rule

namespace Machine

def width (machine : Machine) : Nat :=
  machine.counters.length

/-- The counter of one tape; a negative number counts tapes from the last. -/
def counter? (machine : Machine) (tape : Int) : Option Int :=
  entry? machine.counters tape

def isNonnegative (machine : Machine) : Bool :=
  machine.counters.all fun value => decide (0 ≤ value)

/-- Text of a machine: its state, then every counter by tape number. -/
def text (machine : Machine) : String :=
  let counters := machine.counters.zipIdx.map fun (value, tape) =>
    "T" ++ Text.Numeral.text tape ++ "=" ++ Text.Numeral.text value
  "[State " ++ Text.Numeral.text machine.state ++ "] " ++ String.intercalate " " counters

def countersText (machine : Machine) : String :=
  "TapeState(" ++ Text.Numeral.listText machine.counters ++ ")"

/-- Whether the guards of a rule hold, the rule having the machine's width. -/
def canApply (machine : Machine) (rule : Rule) : Except Fault Bool :=
  if machine.width = rule.width then .ok (rule.guardsHold machine.counters)
  else .error .widthMismatch

/-- Add the adjustments of a rule to the counters. An overflow leaves the machine as it was;
counters that have become negative stay. -/
def move (machine : Machine) (rule : Rule) : Except Fault Unit × Machine :=
  let counters := rule.adjust machine.counters
  match firstOverflow? counters with
  | some fault => (.error fault, machine)
  | none =>
      let moved := { machine with counters }
      if moved.isNonnegative then (.ok (), moved) else (.error .belowZero, moved)

/-- Fire a rule if the machine is in its state and its guards hold. The state is switched last, so
a fault while moving leaves it. -/
def tryRule (machine : Machine) (rule : Rule) : Except Fault Outcome × Machine :=
  if machine.state ≠ rule.source then (.ok .wrongState, machine)
  else
    match machine.canApply rule with
    | .error fault => (.error fault, machine)
    | .ok false => (.ok .guardUnsatisfied, machine)
    | .ok true =>
        match machine.move rule with
        | (.error fault, moved) => (.error fault, moved)
        | (.ok (), moved) => (.ok .applied, { moved with state := rule.target })

/-- What a machine that a program with the given number of tapes can run satisfies. -/
structure Fits (tapes : Int) (machine : Machine) : Prop where
  width_eq : (machine.width : Int) = tapes
  state_nonneg : 0 ≤ machine.state
  counters_bounded : ∀ value ∈ machine.counters, 0 ≤ value ∧ value ≤ maxValue

end Machine

/-- What scanning the rules of a program comes to. -/
inductive Scan where
  /-- The rule at a position fired and gave a new machine. -/
  | fired (index : Nat) (rule : Rule) (machine : Machine)
  /-- No rule applies. -/
  | halted
  /-- A rule could not be tried or fired; the machine is what it left. -/
  | faulted (fault : Fault) (machine : Machine)
  deriving DecidableEq

/-- Try rules in order until one fires or faults. `index` is the position of the first of them. -/
def scanRules (machine : Machine) (index : Nat) : List Rule → Scan
  | [] => .halted
  | rule :: rest =>
      match machine.tryRule rule with
      | (.error fault, left) => .faulted fault left
      | (.ok .applied, moved) => .fired index rule moved
      | (.ok .wrongState, _) | (.ok .guardUnsatisfied, _) => scanRules machine (index + 1) rest

/-- Fire the first rule of a program that applies. -/
def Program.scan (program : Program) (machine : Machine) : Scan :=
  scanRules machine 0 program.rules

end CounterMachine
