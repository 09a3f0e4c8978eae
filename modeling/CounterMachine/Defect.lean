import CounterMachine.Draft

/-!
# Defects

A draft program is checked once, before it is run or transformed; a draft machine is checked
against the tape count of its program. `DraftProgram.defects` lists everything that is wrong with
a program, in order: rule by rule, the width first, then the two states, then the adjustments by
tape. `accept` hands over the program or machine proper, or refuses the draft for its first defect.

Defects are put in words as they are found, those of a program all before the first is looked at. So
one that would show too long a number hides what is wrong: the draft is then refused without a
defect.
-/

namespace CounterMachine

/-- What can be wrong with one rule. -/
inductive RuleDefect where
  | width (expected : Int) (actual : Nat)
  | source (value : Scalar)
  | target (value : Scalar)
  | adjustmentNotInteger (tape : Nat) (value : Scalar)
  | adjustmentOutOfRange (tape : Nat) (value : Int)
  deriving DecidableEq

/-- What can be wrong with a program or a machine. -/
inductive Defect where
  | tapeCount (value : Scalar)
  | rule (index : Nat) (defect : RuleDefect)
  | machineWidth (expected : Int) (actual : Nat)
  | machineState (value : Scalar)
  | counterNotInteger (tape : Nat) (value : Scalar)
  | counterOutOfRange (tape : Nat) (value : Int)
  deriving DecidableEq

open Text.Numeral (text)

def RuleDefect.message : RuleDefect → String
  | .width expected actual =>
      "expected " ++ text expected ++ " tape adjustments, found " ++ text actual
  | .source value => "invalid cur_state: " ++ value.display
  | .target value => "invalid next_state: " ++ value.display
  | .adjustmentNotInteger tape value =>
      "adjustment for tape " ++ text tape ++ " is not an integer: " ++ value.display
  | .adjustmentOutOfRange tape value =>
      "adjustment for tape " ++ text tape ++ " out of 32-bit range: " ++ text value

/-- The numbers of a draft rule that the wording of a defect shows. Positions and lengths, which it
shows as well, are never too long. -/
def RuleDefect.numbers : RuleDefect → List Int
  | .width expected _ => [expected]
  | .source value | .target value | .adjustmentNotInteger _ value => value.toInt?.toList
  | .adjustmentOutOfRange _ value => [value]

namespace Defect

def message : Defect → String
  | .tapeCount value => "Invalid tape count: " ++ value.display
  | .rule index defect => "Rule " ++ text index ++ ": " ++ defect.message
  | .machineWidth expected actual =>
      "Machine has " ++ text actual ++ " tapes, program expects " ++ text expected
  | .machineState value => "Invalid machine state: " ++ value.display
  | .counterNotInteger tape value =>
      "Tape " ++ text tape ++ " holds a non-integer value: " ++ value.display
  | .counterOutOfRange tape value => "Tape " ++ text tape ++ " out of range: " ++ text value

/-- The numbers of a draft that the wording of a defect shows. -/
def numbers : Defect → List Int
  | .tapeCount value | .machineState value | .counterNotInteger _ value => value.toInt?.toList
  | .rule _ defect => defect.numbers
  | .machineWidth expected _ => [expected]
  | .counterOutOfRange _ value => [value]

/-- Whether a defect can be put in words. -/
def isShowable (defect : Defect) : Bool :=
  defect.numbers.all Text.Numeral.isShowable

def ruleIndex? : Defect → Option Nat
  | .rule index _ => some index
  | _ => none

/-- For a defect of width, the expected and the actual width. -/
def widths? : Defect → Option (Int × Nat)
  | .rule _ (.width expected actual) => some (expected, actual)
  | .machineWidth expected actual => some (expected, actual)
  | _ => none

end Defect

/-- Why a draft is refused. -/
inductive Refusal where
  | defective (defect : Defect)
  /-- A defect that was found cannot be put in words. -/
  | unshowable
  deriving DecidableEq

def Refusal.message : Refusal → String
  | .defective defect => defect.message
  | .unshowable => Text.Numeral.unshowableMessage

/-- Refuse a draft for one defect. -/
def Refusal.ofDefect (defect : Defect) : Refusal :=
  if defect.isShowable then .defective defect else .unshowable

/-- Whether a value can be a control state: a non-negative integer. -/
def Scalar.isState : Scalar → Bool
  | .integer value => 0 ≤ value
  | _ => false

/-- The defect of one adjustment, if it has one. -/
def adjustmentDefect? (tape : Nat) (amount : Scalar) : Option RuleDefect :=
  match amount.toInt? with
  | none => some (.adjustmentNotInteger tape amount)
  | some value =>
      if value < minValue ∨ maxValue < value then some (.adjustmentOutOfRange tape value) else none

/-- Everything that is wrong with a rule of a program with the given number of tapes. -/
def DraftRule.defects (tapes : Int) (rule : DraftRule) : List RuleDefect :=
  (if (rule.adjustments.length : Int) = tapes then []
    else [.width tapes rule.adjustments.length]) ++
  (if rule.source.isState then [] else [.source rule.source]) ++
  (if rule.target.isState then [] else [.target rule.target]) ++
  rule.adjustments.zipIdx.filterMap fun entry => adjustmentDefect? entry.2 entry.1

/-- Everything that is wrong with a list of rules, the first of which has the given position. -/
def rulesDefects (tapes : Int) (index : Nat) : List DraftRule → List Defect
  | [] => []
  | rule :: rest =>
      (rule.defects tapes).map (.rule index) ++ rulesDefects tapes (index + 1) rest

namespace DraftProgram

/-- Everything that is wrong with a program. A tape count that is no count leaves nothing to check
the rules against, and is then the only defect. -/
def defects (program : DraftProgram) : List Defect :=
  match program.tapes with
  | .integer tapes =>
      if tapes < 0 then [.tapeCount program.tapes] else rulesDefects tapes 0 program.rules
  | _ => [.tapeCount program.tapes]

/-- All defects of a program, each of them put in words. -/
def inspect (program : DraftProgram) : Except Refusal (List Defect) :=
  if program.defects.all Defect.isShowable then .ok program.defects else .error .unshowable

/-- The program proper, unless it is refused. -/
def accept (program : DraftProgram) : Except Refusal Program :=
  match program.inspect with
  | .error refusal => .error refusal
  | .ok [] => .ok program.toProgram
  | .ok (defect :: _) => .error (.defective defect)

end DraftProgram

/-- The defect of one counter, if it has one. -/
def counterDefect? (tape : Nat) (counter : Scalar) : Option Defect :=
  match counter.toInt? with
  | none => some (.counterNotInteger tape counter)
  | some value =>
      if value < 0 ∨ maxValue < value then some (.counterOutOfRange tape value) else none

namespace DraftMachine

/-- The first thing that keeps a machine from running a program with the given number of tapes. -/
def defect? (tapes : Int) (machine : DraftMachine) : Option Defect :=
  if (machine.counters.length : Int) ≠ tapes then
    some (.machineWidth tapes machine.counters.length)
  else if !machine.state.isState then
    some (.machineState machine.state)
  else
    machine.counters.zipIdx.findSome? fun entry => counterDefect? entry.2 entry.1

/-- The machine proper, unless it is refused. -/
def accept (tapes : Int) (machine : DraftMachine) : Except Refusal Machine :=
  match machine.defect? tapes with
  | none => .ok machine.toMachine
  | some defect => .error (.ofDefect defect)

end DraftMachine

end CounterMachine
