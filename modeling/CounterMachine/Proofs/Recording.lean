import CounterMachine.Proofs.Budget

/-!
# Recording does not influence a run

A session that records its firings and one that does not, on the same program and with the same
budget, go through the same history in the same way. The second is the first with its record taken
away. Taking the record away commutes with everything that can be done to a session, so every
answer of the one is the answer of the other without the machines around its firings.
-/

namespace CounterMachine

def Firing.bare (firing : Firing) : Firing :=
  { firing with before := none, after := none }

namespace Session

variable {session : Session}

/-- The session with its record taken away. -/
def unrecorded (session : Session) : Session :=
  { session with recording := false, trace := #[] }

def Reply.bare : Reply → Reply
  | .done => .done
  | .stepped firing => .stepped (firing.map Firing.bare)
  | .ran _ => .ran #[]

theorem step_unrecorded (session : Session) :
    session.unrecorded.step =
      (session.step.1.map (Option.map Firing.bare), session.step.2.unrecorded) := by
  cases current : session.machine with
  | none => simp [step, unrecorded, current, Except.map]
  | some machine =>
      cases halted : session.halted with
      | true => simp [step, unrecorded, current, halted, Except.map]
      | false =>
          by_cases spent : 0 < session.steps ∧ session.fuel ≤ session.steps
          · simp [step, unrecorded, current, halted, spent, Except.map]
          · have allowed : session.steps = 0 ∨ (session.steps : Int) < session.fuel := by omega
            have recorded := step_of_running current halted allowed
            have bare := @step_of_running session.unrecorded machine current halted allowed
            have same : session.unrecorded.program = session.program := rfl
            rw [recorded, bare, same]
            cases session.program.scan machine with
            | halted => rfl
            | faulted fault left => rfl
            | fired index rule after =>
                refine Prod.ext ?_ rfl
                change (if session.fuel ≤ (session.steps + 1 : Nat) then _ else _) = _
                dsimp only
                by_cases reached : session.fuel ≤ (session.steps + 1 : Nat)
                · rw [if_pos reached, if_pos reached]
                  rfl
                · rw [if_neg reached, if_neg reached]
                  rfl

theorem run_unrecorded (session : Session) :
    session.unrecorded.run = (session.run.1, session.run.2.unrecorded) := by
  fun_induction run session with
  | case1 session error next stepped =>
      rw [run_eq, step_unrecorded, stepped]
      rfl
  | case2 session next stepped =>
      rw [run_eq, step_unrecorded, stepped]
      rfl
  | case3 session firing next stepped ih =>
      rw [run_eq, step_unrecorded, stepped]
      exact ih

theorem load_unrecorded (session : Session) (draft : DraftMachine) :
    session.unrecorded.load draft = (session.load draft).map unrecorded := by
  have same : session.unrecorded.program = session.program := rfl
  rw [load, load, same]
  cases draft.accept session.program.tapes with
  | error refusal => rfl
  | ok machine => rfl

theorem perform_unrecorded (session : Session) (action : Action) :
    session.unrecorded.perform action =
      ((session.perform action).1.map Reply.bare, (session.perform action).2.unrecorded) := by
  cases action with
  | load draft =>
      simp only [perform, load_unrecorded]
      cases session.load draft with
      | error error => rfl
      | ok loaded => rfl
  | step =>
      simp only [perform, step_unrecorded]
      cases session.step.1 with
      | error error => rfl
      | ok firing => rfl
  | run =>
      simp only [perform, run_unrecorded]
      cases session.run.1 with
      | error error => rfl
      | ok done => rfl
  | setFuel fuel => rfl

theorem after_unrecorded (session : Session) (history : List Action) :
    session.unrecorded.after history = (session.after history).unrecorded := by
  induction history generalizing session with
  | nil => rfl
  | cons action history ih =>
      change (session.unrecorded.perform action).2.after history = _
      rw [perform_unrecorded]
      exact ih (session.perform action).2

/-- A step leaves the trace and the number of firings alone, or it adds one firing to both. -/
theorem step_fires_or_stays (session : Session) :
    ((∀ firing, session.step.1 ≠ .ok (some firing)) ∧
      session.step.2.steps = session.steps ∧ session.step.2.trace = session.trace) ∨
    ∃ index rule before after,
      session.step.2 = session.advance (session.firing index rule before after) after ∧
      ∀ firing, session.step.1 = .ok (some firing) →
        firing = session.firing index rule before after := by
  cases current : session.machine with
  | none => exact .inl (by simp [step, current])
  | some machine =>
      cases halted : session.halted with
      | true => exact .inl (by simp [step, current, halted])
      | false =>
          by_cases spent : 0 < session.steps ∧ session.fuel ≤ session.steps
          · exact .inl (by simp [step, current, halted, spent])
          · have allowed : session.steps = 0 ∨ (session.steps : Int) < session.fuel := by omega
            rw [step_of_running current halted allowed]
            cases scanned : session.program.scan machine with
            | halted => exact .inl (by simp)
            | faulted fault left => exact .inl (by simp)
            | fired index rule after =>
                refine .inr ⟨index, rule, machine, after, rfl, ?_⟩
                intro firing answered
                dsimp only at answered
                split at answered
                next => cases answered
                next =>
                  cases answered
                  rfl

/-- The session records, and its trace has one entry for each firing. -/
structure Complete (session : Session) : Prop where
  recording : session.recording = true
  trace_size : session.trace.size = session.steps

namespace Complete

theorem step (complete : session.Complete) : session.step.2.Complete := by
  refine ⟨(step_keeps session).2.1.trans complete.recording, ?_⟩
  rcases step_fires_or_stays session with ⟨-, sameSteps, sameTrace⟩ |
    ⟨index, rule, before, after, advanced, -⟩
  · rw [sameSteps, sameTrace, complete.trace_size]
  · rw [advanced]
    simp [advance, complete.recording, complete.trace_size]

theorem perform (complete : session.Complete) (action : Action) :
    (session.perform action).2.Complete := by
  cases action with
  | load draft =>
      simp only [Session.perform]
      split
      next => exact complete
      next loaded success =>
        obtain ⟨machine, -, -, rfl⟩ := load_eq_ok.1 success
        exact ⟨complete.recording, rfl⟩
  | step => exact complete.step
  | run => exact run_preserves Complete (fun _ holds => holds.step) session complete
  | setFuel fuel => exact ⟨complete.recording, complete.trace_size⟩

theorem after (complete : session.Complete) (history : List Action) :
    (session.after history).Complete :=
  after_preserves Complete (fun action _ _ holds => holds.perform action) session complete

/-- The firing that a recording session answers with has the machines around it. -/
theorem exists_machines {firing : Firing} (complete : session.Complete)
    (fired : session.step.1 = .ok (some firing)) :
    ∃ before after, firing.before = some before ∧ firing.after = some after := by
  rcases step_fires_or_stays session with ⟨stays, -, -⟩ |
    ⟨index, rule, before, after, -, same⟩
  · exact absurd fired (stays firing)
  · rw [same firing fired]
    exact ⟨before, after, by simp [Session.firing, complete.recording],
      by simp [Session.firing, complete.recording]⟩

end Complete

/-- Two sessions stand at the same point; the first has recorded all firings and the second none. -/
structure SameStanding (recorded plain : Session) : Prop where
  steps_eq : plain.steps = recorded.steps
  halted_eq : plain.halted = recorded.halted
  machine_eq : plain.machine = recorded.machine
  trace_size : recorded.trace.size = recorded.steps
  trace_empty : plain.trace = #[]

/-- Two answers are the same but for the record: the first has the machines around a firing and the
trace of a run, the second has neither. -/
inductive SameAnswer : Except RunError Reply → Except RunError Reply → Prop where
  | failed (error : RunError) : SameAnswer (.error error) (.error error)
  | done : SameAnswer (.ok .done) (.ok .done)
  | rested : SameAnswer (.ok (.stepped none)) (.ok (.stepped none))
  | fired (step index : Nat) (rule : Rule) (before after : Machine) :
      SameAnswer (.ok (.stepped (some ⟨step, index, rule, some before, some after⟩)))
        (.ok (.stepped (some ⟨step, index, rule, none, none⟩)))
  | ran (trace : Array Firing) : SameAnswer (.ok (.ran trace)) (.ok (.ran #[]))

theorem Complete.sameStanding (complete : session.Complete) :
    SameStanding session session.unrecorded :=
  ⟨rfl, rfl, rfl, complete.trace_size, rfl⟩

/-- Only a step answers with a firing. -/
theorem step_of_perform {action : Action} {firing : Option Firing}
    (answered : (session.perform action).1 = .ok (.stepped firing)) :
    session.step.1 = .ok firing := by
  cases action with
  | load draft =>
      simp only [perform] at answered
      split at answered
      next => cases answered
      next => cases answered
  | step =>
      simp only [perform] at answered
      cases stepped : session.step.1 with
      | error error => simp [stepped, Except.map] at answered
      | ok fired => simpa [stepped, Except.map] using answered
  | run =>
      simp only [perform] at answered
      cases ran : session.run.1 with
      | error error => simp [ran, Except.map] at answered
      | ok done => simp [ran, Except.map] at answered
  | setFuel fuel => cases answered

theorem Complete.sameAnswer (complete : session.Complete) (action : Action) :
    SameAnswer (session.perform action).1 (session.unrecorded.perform action).1 := by
  rw [perform_unrecorded]
  cases answered : (session.perform action).1 with
  | error error => exact .failed error
  | ok reply =>
      cases reply with
      | done => exact .done
      | ran trace => exact .ran trace
      | stepped firing =>
          cases firing with
          | none => exact .rested
          | some firing =>
              obtain ⟨before, after, beforeEq, afterEq⟩ :=
                complete.exists_machines (step_of_perform answered)
              obtain ⟨step, index, rule, first, second⟩ := firing
              obtain rfl : first = some before := beforeEq
              obtain rfl : second = some after := afterEq
              exact .fired step index rule before after

/-- Recording makes no difference to a session. Fed the same history, a session that records and one
that does not stand at the same point after every action, and they answer the next one alike, with
the same error if it fails. -/
theorem recording_keeps_execution (draft : DraftProgram) (program : Program)
    (valid : draft.accept = .ok program) (fuel : Int) (nonneg : 0 ≤ fuel) :
    ∃ recorded plain, Session.start draft fuel true = .ok recorded ∧
      Session.start draft fuel false = .ok plain ∧
      ∀ history : List Action,
        SameStanding (recorded.after history) (plain.after history) ∧
        ∀ action, SameAnswer ((recorded.after history).perform action).1
          ((plain.after history).perform action).1 := by
  obtain ⟨rfl, wellFormed⟩ := DraftProgram.accept_eq_ok.1 valid
  refine ⟨_, _, start_toDraft wellFormed nonneg true, start_toDraft wellFormed nonneg false, ?_⟩
  intro history
  have opened : Complete { program, fuel, recording := true } := ⟨rfl, rfl⟩
  have complete := opened.after history
  have bare := after_unrecorded { program, fuel, recording := true } history
  change Session.after { program, fuel, recording := false } history = _ at bare
  rw [bare]
  exact ⟨complete.sameStanding, complete.sameAnswer⟩

/-- A budget of one runs out at the first firing, is raised, and the second firing overflows. -/
theorem recording_keeps_overflow :
    ∃ recorded plain,
      Session.start (Program.toDraft ⟨1, [⟨0, 0, [maxValue]⟩]⟩) 1 true = .ok recorded ∧
      Session.start (Program.toDraft ⟨1, [⟨0, 0, [maxValue]⟩]⟩) 1 false = .ok plain ∧
      SameStanding (recorded.after [.load (Machine.toDraft ⟨0, [0]⟩), .step, .setFuel 9])
        (plain.after [.load (Machine.toDraft ⟨0, [0]⟩), .step, .setFuel 9]) ∧
      ((recorded.after [.load (Machine.toDraft ⟨0, [0]⟩), .step, .setFuel 9]).perform .step).1 =
        .error (.fault (.overflow 0 4294967294)) ∧
      ((plain.after [.load (Machine.toDraft ⟨0, [0]⟩), .step, .setFuel 9]).perform .step).1 =
        .error (.fault (.overflow 0 4294967294)) := by
  obtain ⟨recorded, plain, opened, openedPlain, alike⟩ := recording_keeps_execution
    (Program.toDraft ⟨1, [⟨0, 0, [maxValue]⟩]⟩) ⟨1, [⟨0, 0, [maxValue]⟩]⟩ rfl 1 (by decide)
  obtain rfl := Except.ok.inj opened
  obtain rfl := Except.ok.inj openedPlain
  obtain ⟨standing, -⟩ := alike [.load (Machine.toDraft ⟨0, [0]⟩), .step, .setFuel 9]
  exact ⟨_, _, rfl, rfl, standing, rfl, rfl⟩

end Session

end CounterMachine
