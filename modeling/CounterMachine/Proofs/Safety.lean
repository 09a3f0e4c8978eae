import CounterMachine.Proofs.Budget
import CounterMachine.Proofs.Token

/-!
# Valid machines stay valid

A program and a machine are checked once, before a session runs them. That suffices: every firing
leaves a machine that would be accepted again, and nothing can go wrong on the way but that the
budget is used up or a counter overflows. The check made before a rule is tried and the one made
after it has fired never fail. Elimination gives a program and a machine that pass the same check.
-/

namespace CounterMachine

/-- What a run of a valid program from a valid machine may fail with. -/
inductive RunError.Foreseen : RunError → Prop where
  | outOfFuel (fuel : Int) (steps : Nat) : Foreseen (.outOfFuel fuel steps)
  | overflow (tape : Nat) (value : Int) : Foreseen (.fault (.overflow tape value))

theorem map_eq_error_iff {α β : Type} {change : α → β} {answer : Except RunError α}
    {error : RunError} : answer.map change = .error error ↔ answer = .error error := by
  cases answer with
  | error other => simp [Except.map]
  | ok value => simp [Except.map]

namespace Session

variable {session next moment : Session} {machine : Machine} {error : RunError}
  {history : List Action}

/-- The program is well formed and there is a machine that fits it. -/
structure Sound (session : Session) : Prop where
  wellFormed : session.program.WellFormed
  fits : ∃ machine, session.machine = some machine ∧ machine.Fits session.program.tapes

theorem Sound.of_load (wellFormed : session.program.WellFormed)
    (loaded : session.load machine.toDraft = .ok next) : next.Sound := by
  have follows := follows_of_load wellFormed loaded
  exact ⟨follows.wellFormed, machine, follows.current, follows.machine_fits⟩

namespace Sound

theorem stepped (sound : session.Sound) :
    ∃ machine, session.machine = some machine ∧ machine.Fits session.program.tapes ∧
      session.Stepped machine session.step.1 session.step.2 := by
  rcases sound.fits with ⟨machine, current, fits⟩
  exact ⟨machine, current, fits, step_stepped sound.wellFormed current fits⟩

theorem step (sound : session.Sound) : session.step.2.Sound := by
  rcases sound.stepped with ⟨machine, current, fits, stepped⟩
  generalize session.step.1 = answer, session.step.2 = next at stepped ⊢
  cases stepped with
  | rest halted => exact sound
  | spent running fired spent => exact sound
  | halt running scanned => exact ⟨sound.wellFormed, machine, current, fits⟩
  | overflow tape value running scanned => exact sound
  | fire index rule after running allowed scanned =>
      exact ⟨sound.wellFormed, after, rfl, Program.fits_of_fired sound.wellFormed fits scanned⟩

theorem step_foreseen (sound : session.Sound) (failed : session.step.1 = .error error) :
    error.Foreseen := by
  rcases sound.stepped with ⟨machine, current, fits, stepped⟩
  generalize session.step.1 = answer, session.step.2 = next at stepped failed
  cases stepped with
  | rest halted => cases failed
  | spent running fired spent =>
      cases failed
      constructor
  | halt running scanned => cases failed
  | overflow tape value running scanned =>
      cases failed
      constructor
  | fire index rule after running allowed scanned =>
      split at failed
      next =>
        cases failed
        constructor
      next => cases failed

theorem run_foreseen (sound : session.Sound) (failed : session.run.1 = .error error) :
    error.Foreseen := by
  fun_induction run session with
  | case1 session cause next stepped =>
      apply sound.step_foreseen
      rw [stepped]
      cases failed
      rfl
  | case2 session next stepped => cases failed
  | case3 session firing next stepped ih =>
      have later := sound.step
      rw [stepped] at later
      exact ih later failed

/-- What is done to a session short of a load keeps the invariant. -/
theorem perform {action : Action} (sound : session.Sound) (noLoad : ∀ draft, action ≠ .load draft) :
    (session.perform action).2.Sound := by
  cases action with
  | load draft => exact absurd rfl (noLoad draft)
  | step => exact sound.step
  | run => exact run_preserves Sound (fun _ holds => holds.step) session sound
  | setFuel fuel => exact ⟨sound.wellFormed, sound.fits⟩

theorem perform_foreseen {action : Action} (sound : session.Sound)
    (noLoad : ∀ draft, action ≠ .load draft) (failed : (session.perform action).1 = .error error) :
    error.Foreseen := by
  cases action with
  | load draft => exact absurd rfl (noLoad draft)
  | step =>
      apply sound.step_foreseen
      exact map_eq_error_iff.1 failed
  | run =>
      apply sound.run_foreseen
      exact map_eq_error_iff.1 failed
  | setFuel fuel => cases failed

end Sound

/-- The sessions that there are while a history is performed: at its beginning, after each of its
actions, and within a run after each firing. -/
inductive Passes : Session → List Action → Session → Prop where
  | now {session : Session} {history : List Action} : Passes session history session
  /-- After a firing the run goes on. -/
  | within {session next moment : Session} {history : List Action} {firing : Firing}
      (fired : session.step = (.ok (some firing), next))
      (passes : Passes next (.run :: history) moment) : Passes session (.run :: history) moment
  | later {session moment : Session} {action : Action} {history : List Action}
      (passes : Passes (session.perform action).2 history moment) :
      Passes session (action :: history) moment

theorem passes_after (session : Session) (history : List Action) :
    session.Passes history (session.after history) := by
  induction history generalizing session with
  | nil => exact .now
  | cons action history ih => exact .later (ih _)

/-- What every step and every action of a history keeps holds at every moment of it. -/
theorem Passes.preserves (passes : session.Passes history moment) (Invariant : Session → Prop)
    (stepKept : ∀ session, Invariant session → Invariant session.step.2)
    (kept : ∀ action ∈ history, ∀ session, Invariant session →
      Invariant (session.perform action).2)
    (holds : Invariant session) : Invariant moment := by
  induction passes with
  | now => exact holds
  | @within session next moment history firing fired passes ih =>
      have later := stepKept session holds
      rw [fired] at later
      exact ih kept later
  | @later session moment action history passes ih =>
      exact ih (fun other member => kept other (List.mem_cons_of_mem _ member))
        (kept action List.mem_cons_self session holds)

theorem Sound.passes (sound : session.Sound) (noLoad : ∀ draft, Action.load draft ∉ history)
    (passes : session.Passes history moment) :
    moment.Sound ∧ moment.program = session.program := by
  refine passes.preserves (fun other => other.Sound ∧ other.program = session.program) ?_ ?_
    ⟨sound, rfl⟩
  · rintro other ⟨holds, same⟩
    exact ⟨holds.step, (step_keeps other).1.trans same⟩
  · rintro action member other ⟨holds, same⟩
    have first : ∀ draft, action ≠ .load draft := by
      rintro draft rfl
      exact noLoad draft member
    exact ⟨holds.perform first, (perform_keeps other action).1.trans same⟩

/-- At every moment after a load the session stands where some firings from the loaded machine have
led. -/
theorem follows_of_passes (wellFormed : session.program.WellFormed)
    (loaded : session.load machine.toDraft = .ok next) (noLoad : next.NoLoad history)
    (passes : next.Passes history moment) :
    moment.program = next.program ∧
      ∃ positions current, moment.Follows machine positions current := by
  have tracks : next.Tracks machine (largestFuel next.fuel history) :=
    tracks_loaded wellFormed loaded (le_foldl_max next.fuel _).1
  have invariant : moment.program = next.program ∧
      moment.Tracks machine (largestFuel next.fuel history) := by
    refine passes.preserves _ ?_ (Tracks.kept noLoad fun _ member => le_largestFuel member)
      ⟨rfl, tracks⟩
    rintro other ⟨same, tracks⟩
    exact ⟨(step_keeps other).1.trans same, tracks.step⟩
  exact ⟨invariant.1, invariant.2.follows⟩

/-! ## The gate -/

/-- A moment without danger for a session on the program of a draft: the machine would be accepted
again, and whatever is done next fails, if at all, in one of the foreseen ways. -/
structure Safe (draft : DraftProgram) (session : Session) : Prop where
  program_eq : session.program.toDraft = draft
  machine_valid : ∃ machine, session.machine = some machine ∧
    machine.toDraft.accept session.program.tapes = .ok machine ∧
    machine.Fits session.program.tapes
  foreseen : ∀ action error, (∀ other, action ≠ .load other) →
    (session.perform action).1 = .error error → error.Foreseen

/-- Whatever the budget, a session on the program can be opened and given the machine, and it is
safe at every moment of every history that does not load another machine. -/
def SafeThroughout (draft : DraftProgram) (machine : DraftMachine) : Prop :=
  ∀ (fuel : Int) (recording : Bool), 0 ≤ fuel →
    ∃ session loaded, Session.start draft fuel recording = .ok session ∧
      session.load machine = .ok loaded ∧
      ∀ history : List Action, (∀ other, Action.load other ∉ history) →
        ∀ moment, loaded.Passes history moment → moment.Safe draft

theorem Sound.safe (sound : session.Sound) : session.Safe session.program.toDraft where
  program_eq := rfl
  machine_valid := by
    rcases sound.fits with ⟨machine, current, fits⟩
    exact ⟨machine, current, DraftMachine.accept_eq_ok.2 ⟨rfl, fits⟩, fits⟩
  foreseen := fun _ _ noLoad failed => sound.perform_foreseen noLoad failed

theorem safeThroughout_of_fits {program : Program} (wellFormed : program.WellFormed)
    (fits : machine.Fits program.tapes) : SafeThroughout program.toDraft machine.toDraft := by
  intro fuel recording nonneg
  have loaded := @load_toDraft { program, fuel, recording } machine fits
  refine ⟨_, _, start_toDraft wellFormed nonneg recording, loaded, ?_⟩
  intro history noLoad moment passes
  rcases (Sound.of_load wellFormed loaded).passes noLoad passes with ⟨sound, same⟩
  have safe := sound.safe
  rwa [same] at safe

end Session

open Session (SafeThroughout)
open Elimination (eliminate eliminateMachine)

/-- Acceptance is a sufficient gate. A session on an accepted program that is given an accepted
machine always has a machine that would be accepted again, and it fails only by running out of fuel
or by an overflow: the width of a rule always matches and no tape moves below zero. The same holds
for the single-state form, which always exists. So the machine that a run returns can be run again
under any budget, and it is returned without a firing. -/
theorem safeThroughout_of_accept (draft : DraftProgram) (program : Program)
    (valid : draft.accept = .ok program) (machineDraft : DraftMachine) (machine : Machine)
    (machineValid : machineDraft.accept program.tapes = .ok machine) :
    SafeThroughout draft machineDraft ∧
    (∃ single first, eliminate draft = .ok single ∧
      eliminateMachine machineDraft draft = .ok first ∧
      SafeThroughout single.toDraft first.toDraft) ∧
    ∀ fuel count final, interpret machineDraft draft fuel = .ok (count, final) →
      ∀ again : Int, 0 ≤ again → interpret final.toDraft draft again = .ok (0, final) := by
  rcases DraftProgram.accept_eq_ok.1 valid with ⟨rfl, wellFormed⟩
  rcases DraftMachine.accept_eq_ok.1 machineValid with ⟨rfl, fits⟩
  refine ⟨Session.safeThroughout_of_fits wellFormed fits, ?_, ?_⟩
  · exact ⟨_, _, Elimination.eliminate_eq wellFormed,
      Elimination.eliminateMachine_eq wellFormed fits,
      Session.safeThroughout_of_fits (Elimination.wellFormed_singleForm wellFormed)
        (Elimination.fits_encoded fits)⟩
  · intro fuel count final returned again enough
    rcases gate_of_interpret returned with ⟨nonneg, -⟩
    rcases (interpret_eq_ok_iff wellFormed fits nonneg).1 returned with
      ⟨positions, reached, -, halted⟩
    have finalFits := Program.fits_of_firings wellFormed fits reached
    exact interpret_of_halted wellFormed finalFits enough (.inl rfl) Program.firings_zero halted

/-- The largest amounts on one tape, where the second firing overflows, and a countdown that is run
again without fuel. -/
theorem safeThroughout_of_accept_extremes :
    (∃ session loaded,
      Session.start (Program.toDraft ⟨1, [⟨0, 1, [minValue]⟩, ⟨0, 0, [maxValue]⟩]⟩) 9 true =
        .ok session ∧
      session.load (Machine.toDraft ⟨0, [0]⟩) = .ok loaded ∧
      (loaded.after [.run, .step]).Safe
        (Program.toDraft ⟨1, [⟨0, 1, [minValue]⟩, ⟨0, 0, [maxValue]⟩]⟩)) ∧
    interpret (Machine.toDraft ⟨0, [0]⟩) (Program.toDraft ⟨1, [⟨0, 0, [-1]⟩]⟩) 0 =
      .ok (0, ⟨0, [0]⟩) := by
  constructor
  · have gate := safeThroughout_of_accept
      (Program.toDraft ⟨1, [⟨0, 1, [minValue]⟩, ⟨0, 0, [maxValue]⟩]⟩)
      ⟨1, [⟨0, 1, [minValue]⟩, ⟨0, 0, [maxValue]⟩]⟩ rfl (Machine.toDraft ⟨0, [0]⟩) ⟨0, [0]⟩ rfl
    rcases gate.1 9 true (by decide) with ⟨session, loaded, opened, given, safe⟩
    have passes := Session.passes_after loaded [.run, .step]
    exact ⟨session, loaded, opened, given, safe [.run, .step] (by simp) _ passes⟩
  · have valid : DraftProgram.accept (Program.toDraft ⟨1, [⟨0, 0, [-1]⟩]⟩) =
        .ok ⟨1, [⟨0, 0, [-1]⟩]⟩ := rfl
    have machineValid : DraftMachine.accept 1 (Machine.toDraft ⟨0, [1]⟩) = .ok ⟨0, [1]⟩ := rfl
    have fired : Program.firings ⟨1, [⟨0, 0, [-1]⟩]⟩ ⟨0, [1]⟩ 1 = some ([0], ⟨0, [0]⟩) := rfl
    have returned := interpret_of_halted (DraftProgram.accept_eq_ok.1 valid).2
      (DraftMachine.accept_eq_ok.1 machineValid).2 (show (0 : Int) ≤ 2 by decide)
      (.inr (by decide)) fired rfl
    have gate := safeThroughout_of_accept _ _ valid _ _ machineValid
    exact gate.2.2 2 1 ⟨0, [0]⟩ returned 0 (by decide)

end CounterMachine
