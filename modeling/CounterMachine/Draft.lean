import CounterMachine.Machine
import CounterMachine.Text.Shortest

/-!
# Drafts

Programs and machines arrive from outside with values of any kind where numbers belong. A draft
holds such a program or machine before it has been checked. Programs and machines proper are the
drafts in which every value is an integer; `toDraft` is that inclusion.
-/

namespace CounterMachine

/-- A value that stands where an integer is expected. -/
inductive Scalar where
  | integer (value : Int)
  | truth (value : Bool)
  | absent
  | floating (value : Text.Binary64)
  | text (value : String)
  /-- Something that was given and left without a value. -/
  | blank
  deriving DecidableEq

namespace Scalar

/-- How messages show a value. -/
def display : Scalar → String
  | .integer value => Text.Numeral.text value
  | .truth true => "True"
  | .truth false => "False"
  | .absent => "None"
  | .floating value => String.ofList value.write
  | .text value => String.ofList (Text.quoted value.toList)
  | .blank => "[]"

/-- The integer that a value is. Truth values and floating-point numbers are not integers, not even
`2.0`. -/
def toInt? : Scalar → Option Int
  | .integer value => some value
  | .truth _ | .absent | .floating _ | .text _ | .blank => none

/-- The integer that a value is, or zero; used for values that are known to be integers. -/
def toInt (value : Scalar) : Int :=
  value.toInt?.getD 0

end Scalar

/-- A rule whose states and adjustments have not been checked. -/
structure DraftRule where
  source : Scalar
  target : Scalar
  adjustments : List Scalar
  deriving DecidableEq

/-- A program that has not been checked. -/
structure DraftProgram where
  tapes : Scalar
  rules : List DraftRule := []
  deriving DecidableEq

/-- A machine that has not been checked. -/
structure DraftMachine where
  state : Scalar := .integer 0
  counters : List Scalar := []
  deriving DecidableEq

def Rule.toDraft (rule : Rule) : DraftRule where
  source := .integer rule.source
  target := .integer rule.target
  adjustments := rule.adjustments.map .integer

def Program.toDraft (program : Program) : DraftProgram where
  tapes := .integer program.tapes
  rules := program.rules.map Rule.toDraft

def Machine.toDraft (machine : Machine) : DraftMachine where
  state := .integer machine.state
  counters := machine.counters.map .integer

/-- The rule that a draft of integers describes. -/
def DraftRule.toRule (rule : DraftRule) : Rule where
  source := rule.source.toInt
  target := rule.target.toInt
  adjustments := rule.adjustments.map Scalar.toInt

/-- The program that a draft of integers describes. -/
def DraftProgram.toProgram (program : DraftProgram) : Program where
  tapes := program.tapes.toInt
  rules := program.rules.map DraftRule.toRule

/-- The machine that a draft of integers describes. -/
def DraftMachine.toMachine (machine : DraftMachine) : Machine where
  state := machine.state.toInt
  counters := machine.counters.map Scalar.toInt

@[simp] theorem Scalar.toInt_integer (value : Int) : (Scalar.integer value).toInt = value := rfl

@[simp] theorem Rule.toRule_toDraft (rule : Rule) : rule.toDraft.toRule = rule := by
  simp [toDraft, DraftRule.toRule, Function.comp_def]

@[simp] theorem Program.toProgram_toDraft (program : Program) :
    program.toDraft.toProgram = program := by
  simp [toDraft, DraftProgram.toProgram, Function.comp_def]

@[simp] theorem Machine.toMachine_toDraft (machine : Machine) :
    machine.toDraft.toMachine = machine := by
  simp [toDraft, DraftMachine.toMachine, Function.comp_def]

end CounterMachine
