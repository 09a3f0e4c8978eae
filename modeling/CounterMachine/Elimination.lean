import CounterMachine.Session

/-!
# State elimination

Every program has an equivalent one with the single state `0`. The states that its rules mention
are numbered `0, 1, …` in ascending order, and each number gets two extra tapes after the tapes of
the source program: an active flag, which holds `1` while that state is being emulated, and a
relay.

A rule keeps its adjustments and takes `1` from the active flag of its source state. A rule that
changes state puts it on the active flag of the target. A self-loop cannot do so, for a rule adds
one amount to a tape; it puts it on the relay instead, and a second rule returns it to the active
flag. Emitting the rules in the order of their sources keeps the priorities.
-/

namespace CounterMachine.Elimination

/-- Numbers given to states. Of two pairs for one state the first counts. -/
abbrev Numbering := List (Int × Int)

/-- The states of a program, numbered from zero in ascending order. -/
def numbering (program : Program) : Numbering :=
  program.states.zipIdx.map fun (state, number) => (state, (number : Int))

/-- The tape with the active flag of a numbered state. -/
def activeTape (sourceTapes number : Int) : Int :=
  sourceTapes + 2 * number

/-- The tape with the relay of a numbered state. -/
def relayTape (sourceTapes number : Int) : Int :=
  sourceTapes + 2 * number + 1

/-- The number of tapes of the single-state program. -/
def tapeCount (program : Program) : Int :=
  program.tapes + 2 * (numbering program).length

/-- The one state of a program without states. -/
def onlyState : Int := 0

/-- Why a rule cannot be encoded. -/
inductive EncodeError where
  /-- A state has no number. -/
  | unnumbered (state : Int)
  /-- A flag lies outside the tapes. -/
  | noTape (tape : Int)
  /-- There cannot be that many tapes. -/
  | tapes (error : RowError)
  deriving DecidableEq

def EncodeError.message : EncodeError → String
  | .unnumbered state => Text.Numeral.text state
  | .noTape tape => missingEntryMessage "list assignment" tape
  | .tapes error => error.message

def number (states : Numbering) (state : Int) : Except EncodeError Int :=
  match states.lookup state with
  | some number => .ok number
  | none => .error (.unnumbered state)

/-- Put an amount on one tape. -/
def setTape (amounts : List Int) (tape amount : Int) : Except EncodeError (List Int) :=
  match setEntry? amounts tape amount with
  | some changed => .ok changed
  | none => .error (.noTape tape)

def onlyRule (adjustments : List Int) : Rule :=
  ⟨onlyState, onlyState, adjustments⟩

/-- Encode one rule: two rules for a self-loop, one for a change of state. The adjustments of the
rule replace the first entries of a row of zeros, and the flags are written after that. -/
def encodeRule (states : Numbering) (sourceTapes tapes : Int) (rule : Rule) :
    Except EncodeError (List Rule) := do
  let source ← number states rule.source
  let zeros : List Int := List.replicate tapes.toNat 0
  let taken ← setTape (spliceFront zeros sourceTapes rule.adjustments)
    (activeTape sourceTapes source) (-1)
  if rule.isSelfLoop then
    let toRelay ← setTape taken (relayTape sourceTapes source) 1
    let returned ← setTape zeros (activeTape sourceTapes source) 1
    let fromRelay ← setTape returned (relayTape sourceTapes source) (-1)
    return [onlyRule toRelay, onlyRule fromRelay]
  else
    let target ← number states rule.target
    let given ← setTape taken (activeTape sourceTapes target) 1
    return [onlyRule given]

/-- Encode one rule on any number of tapes, which need not be that of a program, if there is room
for them. The source state is looked up before the tapes are laid out. -/
def encodeSingleRule (room : Int) (states : Numbering) (sourceTapes tapes : Int) (rule : Rule) :
    Except EncodeError (List Rule) := do
  let _ ← number states rule.source
  match rowError? room tapes with
  | some error => throw (.tapes error)
  | none => encodeRule states sourceTapes tapes rule

/-- Encode the rules of a program in their order. -/
def encodeProgram (program : Program) : Except EncodeError Program := do
  let states := numbering program
  let tapes := tapeCount program
  let encoded ← program.rules.mapM (encodeRule states program.tapes tapes)
  return ⟨tapes, encoded.flatten⟩

/-- Why a program or machine has no single-state form. -/
inductive Error where
  | malformed (refusal : Refusal)
  | encoding (error : EncodeError)
  deriving DecidableEq

def Error.message : Error → String
  | .malformed refusal => refusal.message
  | .encoding error => error.message

/-- The single-state form of a program. -/
def eliminate (program : DraftProgram) : Except Error Program :=
  match program.accept with
  | .error refusal => .error (.malformed refusal)
  | .ok program => (encodeProgram program).mapError .encoding

/-- Eliminate states several times over. No round at all leaves the program unchecked. -/
def eliminateTimes (program : DraftProgram) : Nat → Except Error Program
  | 0 => .ok program.toProgram
  | rounds + 1 =>
      match eliminate program with
      | .error error => .error error
      | .ok next => eliminateTimes next.toDraft rounds

/-- The counters of a machine on the tapes of the single-state program, with the active flag of its
state set. A state that no rule mentions has no flag. -/
def encodeMachine (program : Program) (machine : Machine) : Except EncodeError Machine := do
  let states := numbering program
  let counters := machine.counters ++ List.replicate (2 * states.length) 0
  match states.lookup machine.state with
  | none => return ⟨onlyState, counters⟩
  | some number =>
      let flagged ← setTape counters (activeTape program.tapes number) 1
      return ⟨onlyState, flagged⟩

/-- The machine from which the single-state form of a program starts. -/
def eliminateMachine (machine : DraftMachine) (program : DraftProgram) : Except Error Machine :=
  match program.accept with
  | .error refusal => .error (.malformed refusal)
  | .ok program =>
      match machine.accept program.tapes with
      | .error refusal => .error (.malformed refusal)
      | .ok machine => (encodeMachine program machine).mapError .encoding

/-- A budget for the single-state form that suffices whenever the given one does for the source
program, since a self-loop fires twice. -/
def encodedFuel (fuel : Int) : Int :=
  2 * fuel

end CounterMachine.Elimination
