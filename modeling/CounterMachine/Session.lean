import CounterMachine.Defect

/-!
# Sessions

A session runs one program under a budget of firings, its fuel. It is opened on a program, given a
machine to start from, and then advanced by single firings or until it halts. Every operation
returns the session it leaves, also when it fails.

The budget is checked twice. A firing that reaches it is carried out and then reported as running
out of fuel; a session that has fired before and already stands at or above its budget fires no
more. So a fresh machine always gets one firing, even without any fuel.
-/

namespace CounterMachine

/-- The budget of a session that names none. -/
def defaultFuel : Int := 10000

/-- One firing as it is recorded. The machines around it are kept only by a recording session. -/
structure Firing where
  /-- Number of firings before this one. -/
  step : Nat
  /-- Position of the fired rule in the program. -/
  ruleIndex : Nat
  rule : Rule
  before : Option Machine
  after : Option Machine
  deriving DecidableEq

/-- Why a session cannot be opened, loaded or advanced. -/
inductive RunError where
  | malformed (refusal : Refusal)
  | negativeFuel (fuel : Int)
  | noMachine
  | outOfFuel (fuel : Int) (steps : Nat)
  | fault (cause : Fault)
  deriving DecidableEq

def RunError.message : RunError → String
  | .malformed refusal => refusal.message
  | .negativeFuel fuel => "fuel must be non-negative, got " ++ Text.Numeral.text fuel
  | .noMachine => "No machine loaded"
  | .outOfFuel fuel steps =>
      "Out of fuel (" ++ Text.Numeral.text fuel ++ ") after " ++ Text.Numeral.text steps ++ " steps"
  | .fault cause => cause.message

/-- The message of a session's error, unless it would show a number that is too long. -/
def RunError.message? (error : RunError) : Option String :=
  match error with
  | .malformed .unshowable => none
  | .malformed (.defective _) | .noMachine => some error.message
  | .negativeFuel fuel => Text.Numeral.showing? [fuel] error.message
  | .outOfFuel fuel steps => Text.Numeral.showing? [fuel, steps] error.message
  | .fault cause => cause.message?

/-- A run in progress. -/
structure Session where
  program : Program
  /-- The most firings, as last set. -/
  fuel : Int
  /-- Whether firings are kept in the trace. -/
  recording : Bool
  /-- The current machine, once one has been loaded. -/
  machine : Option Machine := none
  /-- Firings since the last load. -/
  trace : Array Firing := #[]
  /-- Number of firings since the last load. -/
  steps : Nat := 0
  /-- Whether a scan has found no rule to fire. -/
  halted : Bool := false
  deriving DecidableEq

namespace Session

/-- Open a session. The program is checked first, then the fuel. -/
def start (program : DraftProgram) (fuel : Int := defaultFuel) (recording : Bool := true) :
    Except RunError Session :=
  match program.accept with
  | .error refusal => .error (.malformed refusal)
  | .ok program =>
      if fuel < 0 then .error (.negativeFuel fuel) else .ok { program, fuel, recording }

/-- Give the session a machine to start from, forgetting the run so far. -/
def load (session : Session) (machine : DraftMachine) : Except RunError Session :=
  match machine.accept session.program.tapes with
  | .error refusal => .error (.malformed refusal)
  | .ok machine =>
      .ok { session with machine := some machine, trace := #[], steps := 0, halted := false }

/-- Change the budget. Any integer will do. -/
def setFuel (session : Session) (fuel : Int) : Session :=
  { session with fuel }

/-- The firing that takes one machine to the next. -/
def firing (session : Session) (index : Nat) (rule : Rule) (before after : Machine) : Firing where
  step := session.steps
  ruleIndex := index
  rule := rule
  before := if session.recording then some before else none
  after := if session.recording then some after else none

/-- The session after a firing that gave the machine `after`. -/
def advance (session : Session) (firing : Firing) (after : Machine) : Session :=
  { session with
    machine := some after
    steps := session.steps + 1
    trace := if session.recording then session.trace.push firing else session.trace }

/-- Fire the first applicable rule. `none` means that the session has halted. -/
def step (session : Session) : Except RunError (Option Firing) × Session :=
  match session.machine with
  | none => (.error .noMachine, session)
  | some machine =>
      if session.halted then (.ok none, session)
      else if 0 < session.steps ∧ session.fuel ≤ session.steps then
        (.error (.outOfFuel session.fuel session.steps), session)
      else
        match session.program.scan machine with
        | .halted => (.ok none, { session with halted := true })
        | .faulted fault left => (.error (.fault fault), { session with machine := some left })
        | .fired index rule after =>
            let firing := session.firing index rule machine after
            let next := session.advance firing after
            if next.fuel ≤ next.steps then (.error (.outOfFuel next.fuel next.steps), next)
            else (.ok (some firing), next)

/-- A firing that does not end the run leaves budget to spare. -/
theorem step_fired {session next : Session} {firing : Firing}
    (fired : session.step = (.ok (some firing), next)) :
    next.fuel = session.fuel ∧ next.steps = session.steps + 1 ∧ (next.steps : Int) < next.fuel := by
  rw [step] at fired
  split at fired
  · simp at fired
  · split at fired
    · simp at fired
    · split at fired
      · simp at fired
      · split at fired
        · simp at fired
        · simp at fired
        · simp only at fired
          split at fired
          · simp at fired
          next enough =>
            obtain ⟨-, rfl⟩ := Prod.mk.inj fired
            exact ⟨rfl, rfl, by omega⟩

/-- Advance until no rule applies. The budget still open falls with every firing. -/
def run (session : Session) : Except RunError Unit × Session :=
  match _ : session.step with
  | (.error error, next) => (.error error, next)
  | (.ok none, next) => (.ok (), next)
  | (.ok (some _), next) => next.run
termination_by (session.fuel - session.steps).toNat
decreasing_by
  obtain ⟨sameFuel, oneMore, below⟩ := step_fired ‹session.step = _›
  omega

def counters (session : Session) : Except RunError (List Int) :=
  match session.machine with
  | none => .error .noMachine
  | some machine => .ok machine.counters

end Session

/-- Run a program on a machine under a budget: the number of firings and the machine in which no
rule applies. -/
def interpret (machine : DraftMachine) (program : DraftProgram) (fuel : Int := defaultFuel) :
    Except RunError (Nat × Machine) := do
  let session ← Session.start program fuel false
  let loaded ← session.load machine
  match loaded.run with
  | (.error error, _) => .error error
  | (.ok (), final) =>
      match final.machine with
      | none => .error .noMachine
      | some machine => .ok (final.steps, machine)

end CounterMachine
