import CounterMachine.Elimination.Emulated
import CounterMachine.Session.Report

/-!
# Reports on a single-state run

A run of the single-state form, told in terms of the source program: its own counters and the state
that is being emulated.
-/

namespace CounterMachine.Elimination

/-- The closing lines of a report on a run of the single-state form of a program. -/
def sourceLines (program : Program) (session : Session) : Except DecodeError (List String) := do
  let machine := session.machine.getD {}
  let state ← emulatedState machine program
  let counters := machine.counters.take program.tapes.toNat
  return ["Original tapes: " ++ Text.Numeral.listText counters,
    "Emulated state: " ++ optionText state]

end CounterMachine.Elimination
