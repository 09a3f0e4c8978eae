import CounterMachine.Proofs.Reference
import CounterMachine.Proofs.Safety

/-!
# What failures leave

A failing operation leaves a session that is known exactly. A refused machine, an overflow and a
budget that is used up leave the session as it was, so an overflow that is tried again is met again.
A run that overflows leaves what its successful firings have made. The firing that reaches the
budget is reported as a failure and is nevertheless carried out and recorded in full.
-/

namespace CounterMachine.Session

variable {session next : Session} {machine : Machine} {error : RunError}

/-- The program is well formed, and the machine fits it once there is one. -/
structure Steady (session : Session) : Prop where
  wellFormed : session.program.WellFormed
  fits : ∀ machine, session.machine = some machine → machine.Fits session.program.tapes

theorem Sound.steady (sound : session.Sound) : session.Steady where
  wellFormed := sound.wellFormed
  fits := by
    intro machine current
    obtain ⟨other, same, fits⟩ := sound.fits
    rw [current, Option.some.injEq] at same
    exact same ▸ fits

namespace Steady

theorem sound (steady : session.Steady) (current : session.machine = some machine) :
    session.Sound :=
  ⟨steady.wellFormed, machine, current, steady.fits machine current⟩

theorem step (steady : session.Steady) : session.step.2.Steady := by
  cases current : session.machine with
  | none =>
      have refused : session.step = (.error .noMachine, session) := by
        simp [Session.step, current]
      rw [refused]
      exact steady
  | some machine => exact (steady.sound current).step.steady

theorem perform (steady : session.Steady) (action : Action) :
    (session.perform action).2.Steady := by
  cases action with
  | load draft =>
      simp only [Session.perform]
      split
      next => exact steady
      next loaded success =>
        obtain ⟨machine, rfl, -, -⟩ := load_eq_ok.1 success
        exact (Sound.of_load steady.wellFormed success).steady
  | step => exact steady.step
  | run => exact run_preserves Steady (fun _ holds => holds.step) session steady
  | setFuel fuel => exact ⟨steady.wellFormed, steady.fits⟩

theorem after (steady : session.Steady) (history : List Action) :
    (session.after history).Steady :=
  after_preserves Steady (fun action _ _ holds => holds.perform action) session steady

/-- A step that does more than ask for a machine is one of those that `Stepped` lists. -/
theorem stepped {answer : Except RunError (Option Firing)} (steady : session.Steady)
    (answered : session.step = (answer, next)) (asks : answer ≠ .error .noMachine) :
    ∃ machine, session.machine = some machine ∧ machine.Fits session.program.tapes ∧
      session.Stepped machine answer next := by
  cases current : session.machine with
  | none =>
      rw [Session.step, current] at answered
      exact absurd (Prod.mk.inj answered).1.symm asks
  | some machine =>
      have fits := steady.fits machine current
      have stepped := step_stepped steady.wellFormed current fits
      rw [answered] at stepped
      exact ⟨machine, rfl, fits, stepped⟩

end Steady

theorem Steady.eq_of_overflow {fault : Fault} (steady : session.Steady)
    (overflowed : session.step = (.error (.fault fault), next)) : next = session := by
  obtain ⟨machine, -, -, stepped⟩ := steady.stepped overflowed (by simp)
  generalize answered : (Except.error (.fault fault) : Except RunError (Option Firing)) = answer
    at stepped
  cases stepped with
  | rest halted => cases answered
  | spent running fired spent => rfl
  | halt running scanned => cases answered
  | overflow tape value running scanned => rfl
  | fire index rule after running allowed scanned =>
      split at answered
      next => cases answered
      next => cases answered

/-- A budget that has been used up is left as it is. -/
theorem step_of_spent {fuel : Int} {steps : Nat} (fired : 0 < session.steps)
    (spent : session.fuel ≤ session.steps)
    (failed : session.step = (.error (.outOfFuel fuel steps), next)) : next = session := by
  rw [step] at failed
  split at failed
  next => cases failed
  next =>
    split at failed
    next => cases failed
    next =>
      rw [if_pos ⟨fired, spent⟩] at failed
      cases failed
      rfl

/-- A firing in full: where it leads, that it counts, and its place in the trace of a recording
session. -/
def afterFiring (session : Session) (index : Nat) (rule : Rule) (before after : Machine) :
    Session :=
  { session with
    machine := some after
    steps := session.steps + 1
    trace :=
      if session.recording then
        session.trace.push ⟨session.steps, index, rule, some before, some after⟩
      else session.trace }

theorem advance_firing (session : Session) (index : Nat) (rule : Rule) (before after : Machine) :
    session.advance (session.firing index rule before after) after =
      session.afterFiring index rule before after := by
  cases records : session.recording with
  | false => simp [advance, afterFiring, records]
  | true => simp [advance, afterFiring, firing, records]

/-- The step that uses up the budget has fired the first applicable rule. -/
theorem Steady.exists_firing {fuel : Int} {steps : Nat} (steady : session.Steady)
    (unspent : ¬ (0 < session.steps ∧ session.fuel ≤ session.steps))
    (failed : session.step = (.error (.outOfFuel fuel steps), next)) :
    ∃ machine index rule after, session.machine = some machine ∧
      session.program.firstApplicable? machine = some (rule, index) ∧
      session.program.next machine = .move index after ∧
      next = session.afterFiring index rule machine after ∧
      fuel = session.fuel ∧ steps = session.steps + 1 ∧ session.fuel ≤ steps := by
  obtain ⟨machine, current, fits, stepped⟩ := steady.stepped failed (by simp)
  generalize answered : (Except.error (.outOfFuel fuel steps) :
    Except RunError (Option Firing)) = answer at stepped
  cases stepped with
  | rest halted => cases answered
  | spent running fired spent => exact absurd ⟨fired, spent⟩ unspent
  | halt running scanned => cases answered
  | overflow tape value running scanned => cases answered
  | fire index rule after running allowed scanned =>
      obtain ⟨before, rest, selects, position, -, -⟩ :=
        Program.scan_fired steady.wellFormed fits scanned
      split at answered
      next reached =>
        cases answered
        exact ⟨machine, index, rule, after, current,
          position ▸ Program.firstApplicable?_of_selects selects,
          Program.next_of_fired steady.wellFormed fits scanned,
          advance_firing session index rule machine after, rfl, rfl, reached⟩
      next => cases answered

/-- An overflow stands in the way of everything but another machine or another budget. -/
theorem after_eq_of_overflow {fault : Fault} {later : List Action}
    (overflows : session.step = (.error (.fault fault), session)) (noLoad : session.NoLoad later)
    (noFuel : ∀ fuel, Action.setFuel fuel ∉ later) : session.after later = session := by
  have overflowsInRun : session.run = (.error (.fault fault), session) := by
    rw [run_eq, overflows]
  refine after_preserves (fun other => other = session) ?_ session rfl
  rintro action member other rfl
  cases action with
  | load draft =>
      obtain ⟨error, refused⟩ := noLoad draft member
      simp [perform, refused]
  | step => simp [perform, overflows]
  | run => simp [perform, overflowsInRun]
  | setFuel fuel => exact absurd member (noFuel fuel)

/-- Steps that each fire a rule lead from one session to another. -/
inductive Advances : Session → List Firing → Session → Prop where
  | refl (session : Session) : Advances session [] session
  | fired {session middle next : Session} {firing : Firing} {firings : List Firing}
      (step : session.step = (.ok (some firing), middle))
      (rest : Advances middle firings next) : Advances session (firing :: firings) next

theorem Advances.steady {firings : List Firing} (advances : session.Advances firings next)
    (steady : session.Steady) : next.Steady := by
  induction advances with
  | refl => exact steady
  | fired step rest ih =>
      have kept := steady.step
      rw [step] at kept
      exact ih kept

/-- A run that fails has come to a step that fails in the same way. -/
theorem exists_advances_of_run (failed : session.run = (.error error, next)) :
    ∃ firings middle, session.Advances firings middle ∧ middle.step = (.error error, next) := by
  fun_induction run session with
  | case1 session cause last stepped =>
      cases failed
      exact ⟨[], session, .refl session, stepped⟩
  | case2 session last stepped => cases failed
  | case3 session firing middle stepped ih =>
      obtain ⟨firings, before, advances, stops⟩ := ih failed
      exact ⟨firing :: firings, before, .fired stepped advances, stops⟩

theorem Steady.advances_of_overflow {fault : Fault} (steady : session.Steady)
    (overflowed : session.run = (.error (.fault fault), next)) :
    ∃ firings, session.Advances firings next ∧ next.step = (.error (.fault fault), next) := by
  obtain ⟨firings, middle, advances, stops⟩ := exists_advances_of_run overflowed
  have same := (advances.steady steady).eq_of_overflow stops
  subst same
  exact ⟨firings, advances, stops⟩

/-- What the failures of a session leave. -/
structure FailsInPlace (session : Session) : Prop where
  /-- A machine is refused, and the session stays as it was. -/
  load : ∀ draft error next, session.perform (.load draft) = (.error error, next) →
    next = session ∧ ∃ refusal, error = .malformed refusal ∧
      draft.accept session.program.tapes = .error refusal
  /-- A step that overflows leaves the session as it was, and until a machine is loaded or the
  budget is changed every further step meets the same overflow. -/
  overflow : ∀ tape value next, session.step = (.error (.fault (.overflow tape value)), next) →
    next = session ∧ ∀ later, next.NoLoad later → (∀ fuel, Action.setFuel fuel ∉ later) →
      (next.after later).step = (.error (.fault (.overflow tape value)), next)
  /-- A step on a budget that has been used up leaves the session as it was. -/
  spent : ∀ fuel steps next, 0 < session.steps ∧ session.fuel ≤ session.steps →
    session.step = (.error (.outOfFuel fuel steps), next) → next = session
  /-- A run that overflows leaves what the firings before have made. -/
  run : ∀ tape value next, session.run = (.error (.fault (.overflow tape value)), next) →
    ∃ firings, session.Advances firings next ∧
      next.step = (.error (.fault (.overflow tape value)), next)
  /-- The firing that reaches the budget is carried out, counted and recorded. -/
  reaching : ∀ fuel steps next, ¬ (0 < session.steps ∧ session.fuel ≤ session.steps) →
    session.step = (.error (.outOfFuel fuel steps), next) →
    ∃ machine index rule after, session.machine = some machine ∧
      session.program.firstApplicable? machine = some (rule, index) ∧
      session.program.next machine = .move index after ∧
      next = session.afterFiring index rule machine after ∧
      fuel = session.fuel ∧ steps = session.steps + 1 ∧ session.fuel ≤ steps

theorem perform_load_eq_error {draft : DraftMachine}
    (refused : session.perform (.load draft) = (.error error, next)) :
    next = session ∧ ∃ refusal, error = .malformed refusal ∧
      draft.accept session.program.tapes = .error refusal := by
  rw [perform, load] at refused
  cases accepted : draft.accept session.program.tapes with
  | error refusal =>
      simp only [accepted, Prod.mk.injEq, Except.error.injEq] at refused
      exact ⟨refused.2.symm, refusal, refused.1.symm, rfl⟩
  | ok machine => simp [accepted] at refused

theorem Steady.failsInPlace (steady : session.Steady) : session.FailsInPlace where
  load := fun _ _ _ refused => perform_load_eq_error refused
  overflow := by
    intro tape value next overflowed
    obtain rfl := steady.eq_of_overflow overflowed
    refine ⟨rfl, ?_⟩
    intro later noLoad noFuel
    rw [after_eq_of_overflow overflowed noLoad noFuel, overflowed]
  spent := fun _ _ _ used failed => step_of_spent used.1 used.2 failed
  run := fun _ _ _ overflowed => steady.advances_of_overflow overflowed
  reaching := fun _ _ _ unspent failed => steady.exists_firing unspent failed

/-- Whatever has been done to a session on an accepted program, its next failure leaves the session
as it was, or what the firings before have made. -/
theorem failsInPlace_after_history (draft : DraftProgram) (program : Program)
    (valid : draft.accept = .ok program) (fuel : Int) (nonneg : 0 ≤ fuel) (recording : Bool) :
    ∃ session, Session.start draft fuel recording = .ok session ∧
      ∀ history : List Action, (session.after history).FailsInPlace := by
  obtain ⟨rfl, wellFormed⟩ := DraftProgram.accept_eq_ok.1 valid
  refine ⟨_, start_toDraft wellFormed nonneg recording, ?_⟩
  intro history
  have opened : Steady { program, fuel, recording } := ⟨wellFormed, by simp⟩
  exact (opened.after history).failsInPlace

/-- A counter that is full after one firing overflows at the second, and again after a run and a
machine that is refused. -/
theorem failsInPlace_after_full_counter :
    ∃ session, Session.start (Program.toDraft ⟨1, [⟨0, 0, [maxValue]⟩]⟩) 5 true = .ok session ∧
      (session.after [.load (Machine.toDraft ⟨0, [0]⟩), .step]).step =
        (.error (.fault (.overflow 0 4294967294)),
          session.after [.load (Machine.toDraft ⟨0, [0]⟩), .step]) ∧
      ((session.after [.load (Machine.toDraft ⟨0, [0]⟩), .step]).after
          [.run, .load (Machine.toDraft ⟨0, []⟩)]).step =
        (.error (.fault (.overflow 0 4294967294)),
          session.after [.load (Machine.toDraft ⟨0, [0]⟩), .step]) := by
  obtain ⟨session, opened, fails⟩ := failsInPlace_after_history
    (Program.toDraft ⟨1, [⟨0, 0, [maxValue]⟩]⟩) ⟨1, [⟨0, 0, [maxValue]⟩]⟩ rfl 5 (by decide) true
  obtain rfl := Except.ok.inj opened
  have overflowed : (Session.after ⟨⟨1, [⟨0, 0, [maxValue]⟩]⟩, 5, true, none, #[], 0, false⟩
      [.load (Machine.toDraft ⟨0, [0]⟩), .step]).step =
      (.error (.fault (.overflow 0 4294967294)), _) := rfl
  obtain ⟨stays, again⟩ :=
    (fails [.load (Machine.toDraft ⟨0, [0]⟩), .step]).overflow _ _ _ overflowed
  refine ⟨_, rfl, overflowed.trans (by rw [stays]), ?_⟩
  rw [stays] at again
  refine again [.run, .load (Machine.toDraft ⟨0, []⟩)] ?_ (by simp)
  intro draft member
  simp only [List.mem_cons, reduceCtorEq, Action.load.injEq, List.not_mem_nil, or_false,
    false_or] at member
  subst member
  exact ⟨_, rfl⟩

end CounterMachine.Session
