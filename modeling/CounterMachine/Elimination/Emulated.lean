import CounterMachine.Elimination

/-!
# The emulated state

Reading a machine of the single-state form back: the state of the source program that its flags
stand for. A relay counts for its own state, to which the next firing returns.
-/

namespace CounterMachine.Elimination

/-- Why the flags of a machine stand for no state. -/
inductive DecodeError where
  | width (expected : Int) (actual : Nat)
  | several (states : List Int)
  /-- A flag lies outside the tapes. -/
  | noTape (tape : Int)
  deriving DecidableEq

def DecodeError.message : DecodeError → String
  | .width expected actual =>
      "Machine has " ++ Text.Numeral.text actual ++ " tapes, transpiled program expects " ++
        Text.Numeral.text expected
  | .several states => "Multiple emulated states are set: " ++ Text.Numeral.listText states
  | .noTape tape => missingEntryMessage "list" tape

/-- The message of a decoding error, unless it would show a number that is too long. -/
def DecodeError.message? (error : DecodeError) : Option String :=
  match error with
  | .width expected _ => Text.Numeral.showing? [expected] error.message
  | .several states => Text.Numeral.showing? states error.message
  | .noTape _ => some error.message

/-- Whether a tape holds anything but zero. -/
def isSet (machine : Machine) (tape : Int) : Except DecodeError Bool :=
  match machine.counter? tape with
  | some value => .ok (value != 0)
  | none => .error (.noTape tape)

/-- Whether one of the two flags of a numbered state is set. -/
def isEmulated (sourceTapes : Int) (machine : Machine) (number : Int) :
    Except DecodeError Bool := do
  if ← isSet machine (activeTape sourceTapes number) then return true
  isSet machine (relayTape sourceTapes number)

/-- The states of a numbering that have a flag set, in its order. -/
def emulatedStates (sourceTapes : Int) (machine : Machine) :
    Numbering → Except DecodeError (List Int)
  | [] => .ok []
  | (state, number) :: rest => do
      let here ← isEmulated sourceTapes machine number
      let later ← emulatedStates sourceTapes machine rest
      return if here then state :: later else later

/-- The state of the source program that a machine emulates; `none` if no flag is set. -/
def emulatedState (machine : Machine) (program : Program) : Except DecodeError (Option Int) := do
  let expected := tapeCount program
  if (machine.width : Int) ≠ expected then
    throw (.width expected machine.width)
  match ← emulatedStates program.tapes machine (numbering program) with
  | [] => return none
  | [state] => return some state
  | states => throw (.several states)

/-- What can end a run of the single-state form. -/
inductive RunError where
  | elimination (error : Error)
  | run (error : CounterMachine.RunError)
  | decoding (error : DecodeError)
  deriving DecidableEq

/-- How a run of the single-state form has ended. -/
structure RunResult where
  steps : Nat
  machine : Machine
  /-- The state emulated at the end. -/
  emulated : Option Int
  deriving DecidableEq

/-- Run the single-state form of a program on the encoded machine, with fuel to match. -/
def interpretEliminated (machine : DraftMachine) (program : DraftProgram)
    (fuel : Int := defaultFuel) : Except RunError RunResult := do
  let encoded ← (eliminateMachine machine program).mapError .elimination
  let single ← (eliminate program).mapError .elimination
  let (steps, final) ←
    (interpret encoded.toDraft single.toDraft (encodedFuel fuel)).mapError .run
  let emulated ← (emulatedState final program.toProgram).mapError .decoding
  return { steps, machine := final, emulated }

end CounterMachine.Elimination
