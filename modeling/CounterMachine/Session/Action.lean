import CounterMachine.Session

/-!
# Actions on a session

What can be done to a session, as data, so that a whole history is a list. Performing an action
gives a reply or an error, and in either case the session to go on with.
-/

namespace CounterMachine.Session

/-- Something that changes a session. -/
inductive Action where
  | load (machine : DraftMachine)
  | step
  | run
  | setFuel (fuel : Int)
  deriving DecidableEq

/-- What a successful action answers. -/
inductive Reply where
  | done
  /-- The firing of a step, or `none` from a session that has halted. -/
  | stepped (firing : Option Firing)
  /-- The trace after a run. -/
  | ran (trace : Array Firing)
  deriving DecidableEq

/-- Perform an action. A load that fails leaves the session as it was. -/
def perform (session : Session) : Action → Except RunError Reply × Session
  | .load machine =>
      match session.load machine with
      | .error error => (.error error, session)
      | .ok loaded => (.ok .done, loaded)
  | .step =>
      let (result, next) := session.step
      (result.map .stepped, next)
  | .run =>
      let (result, next) := session.run
      (result.map fun _ => .ran next.trace, next)
  | .setFuel fuel => (.ok .done, session.setFuel fuel)

end CounterMachine.Session
