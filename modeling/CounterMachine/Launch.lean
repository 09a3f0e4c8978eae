import CounterMachine.Elimination

/-!
# Launching a run

A program with a machine and a budget can be run as it is or in its single-state form. Either way
the outcome is one triple to open a session on.
-/

namespace CounterMachine

/-- A program, the machine it starts from, which has yet to be checked, and the budget. -/
structure Launch where
  program : Program
  machine : DraftMachine
  fuel : Int
  deriving DecidableEq

namespace Launch

/-- The same run in single-state form. The machine is checked and encoded first, then the program;
the budget grows to match. -/
def eliminate (launch : Launch) : Except Elimination.Error Launch := do
  let machine ← Elimination.eliminateMachine launch.machine launch.program.toDraft
  let program ← Elimination.eliminate launch.program.toDraft
  return { program, machine := machine.toDraft, fuel := Elimination.encodedFuel launch.fuel }

def session (launch : Launch) (recording : Bool) : Except RunError Session := do
  let session ← Session.start launch.program.toDraft launch.fuel recording
  session.load launch.machine

end Launch

end CounterMachine
