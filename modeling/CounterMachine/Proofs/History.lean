import CounterMachine.Acceptance
import CounterMachine.Proofs.Firing
import CounterMachine.Session.Action

/-!
# Histories of a session

Everything that a session goes through is made of steps. `Stepped` lists what one step can do to a
session whose machine fits, and `Follows` is the invariant that every step keeps: after `steps`
firings the session stands at the machine that the run from the loaded machine has reached, and its
trace holds these firings one by one. Runs and whole histories keep what each step keeps.
-/

namespace CounterMachine.Session

variable {session next : Session} {machine start : Machine} {positions : List Nat}

/-- Opening succeeds exactly for a well-formed program and fuel that is not negative. -/
theorem start_eq_ok {draft : DraftProgram} {fuel : Int} {recording : Bool} :
    Session.start draft fuel recording = .ok session ↔
      ∃ program : Program, draft = program.toDraft ∧ program.WellFormed ∧ 0 ≤ fuel ∧
        session = { program, fuel, recording } := by
  constructor
  · intro opened
    rw [Session.start] at opened
    split at opened
    next => simp at opened
    next program accepted =>
      obtain ⟨rfl, wellFormed⟩ := DraftProgram.accept_eq_ok.1 accepted
      split at opened
      next => simp at opened
      next enough =>
        cases opened
        exact ⟨program, rfl, wellFormed, by omega, rfl⟩
  · rintro ⟨program, rfl, wellFormed, enough, rfl⟩
    have accepted := DraftProgram.accept_eq_ok.2 ⟨rfl, wellFormed⟩
    have notNegative : ¬ fuel < 0 := by omega
    simp [Session.start, accepted, notNegative]

/-- Loading succeeds exactly for a machine that fits, and starts a new run from it. -/
theorem load_eq_ok {draft : DraftMachine} :
    session.load draft = .ok next ↔
      ∃ machine : Machine, draft = machine.toDraft ∧ machine.Fits session.program.tapes ∧
        next = { session with
          machine := some machine, trace := #[], steps := 0, halted := false } := by
  constructor
  · intro loaded
    rw [Session.load] at loaded
    split at loaded
    next => simp at loaded
    next machine accepted =>
      obtain ⟨rfl, fits⟩ := DraftMachine.accept_eq_ok.1 accepted
      cases loaded
      exact ⟨machine, rfl, fits, rfl⟩
  · rintro ⟨machine, rfl, fits, rfl⟩
    have accepted := DraftMachine.accept_eq_ok.2 ⟨rfl, fits⟩
    simp [Session.load, accepted]

theorem start_toDraft {program : Program} {fuel : Int} (wellFormed : program.WellFormed)
    (nonneg : 0 ≤ fuel) (recording : Bool) :
    Session.start program.toDraft fuel recording = .ok { program, fuel, recording } :=
  start_eq_ok.2 ⟨program, rfl, wellFormed, nonneg, rfl⟩

theorem load_toDraft (fits : machine.Fits session.program.tapes) :
    session.load machine.toDraft = .ok { session with
      machine := some machine, trace := #[], steps := 0, halted := false } :=
  load_eq_ok.2 ⟨machine, rfl, fits, rfl⟩

/-- What one step answers, and the session it leaves, if the current machine fits the program. -/
inductive Stepped (session : Session) (machine : Machine) :
    Except RunError (Option Firing) → Session → Prop where
  /-- The session has halted before. -/
  | rest (halted : session.halted = true) : Stepped session machine (.ok none) session
  /-- The budget is used up. -/
  | spent (running : session.halted = false) (fired : 0 < session.steps)
      (spent : session.fuel ≤ session.steps) :
      Stepped session machine (.error (.outOfFuel session.fuel session.steps)) session
  /-- No rule applies. -/
  | halt (running : session.halted = false) (scanned : session.program.scan machine = .halted) :
      Stepped session machine (.ok none) { session with halted := true }
  /-- The selected rule overflows, which changes nothing. -/
  | overflow (tape : Nat) (value : Int) (running : session.halted = false)
      (scanned : session.program.scan machine = .faulted (.overflow tape value) machine) :
      Stepped session machine (.error (.fault (.overflow tape value))) session
  /-- A rule fires. Whether that is reported as a firing depends on the budget. -/
  | fire (index : Nat) (rule : Rule) (after : Machine) (running : session.halted = false)
      (allowed : session.steps = 0 ∨ (session.steps : Int) < session.fuel)
      (scanned : session.program.scan machine = .fired index rule after) :
      Stepped session machine
        (if session.fuel ≤ (session.steps + 1 : Nat) then
          .error (.outOfFuel session.fuel (session.steps + 1))
        else .ok (some (session.firing index rule machine after)))
        (session.advance (session.firing index rule machine after) after)

/-- A running session with budget left scans its program. -/
theorem step_of_running (current : session.machine = some machine)
    (running : session.halted = false)
    (allowed : session.steps = 0 ∨ (session.steps : Int) < session.fuel) :
    session.step =
      match session.program.scan machine with
      | .halted => (.ok none, { session with halted := true })
      | .faulted fault left => (.error (.fault fault), { session with machine := some left })
      | .fired index rule after =>
          (if session.fuel ≤ (session.steps + 1 : Nat) then
            .error (.outOfFuel session.fuel (session.steps + 1))
          else .ok (some (session.firing index rule machine after)),
          session.advance (session.firing index rule machine after) after) := by
  have enough : ¬ (0 < session.steps ∧ session.fuel ≤ session.steps) := by omega
  rw [step]
  simp only [current]
  rw [if_neg (by simp [running]), if_neg enough]
  cases session.program.scan machine with
  | halted => rfl
  | faulted fault left => rfl
  | fired index rule after =>
      dsimp only
      by_cases reached : session.fuel ≤ (session.steps + 1 : Nat)
      · rw [if_pos reached]
        exact if_pos reached
      · rw [if_neg reached]
        exact if_neg reached

theorem step_stepped (wellFormed : session.program.WellFormed)
    (current : session.machine = some machine) (fits : machine.Fits session.program.tapes) :
    session.Stepped machine session.step.1 session.step.2 := by
  cases halted : session.halted with
  | true =>
      have stepped : session.step = (.ok none, session) := by simp [step, current, halted]
      rw [stepped]
      exact .rest halted
  | false =>
      by_cases spent : 0 < session.steps ∧ session.fuel ≤ session.steps
      · have stepped : session.step =
            (.error (.outOfFuel session.fuel session.steps), session) := by
          simp [step, current, halted, spent]
        rw [stepped]
        exact .spent halted spent.1 spent.2
      · have allowed : session.steps = 0 ∨ (session.steps : Int) < session.fuel := by omega
        rw [step_of_running current halted allowed]
        cases scanned : session.program.scan machine with
        | halted => exact .halt halted scanned
        | faulted fault left =>
            obtain ⟨before, rule, rest, -, overflow, rfl⟩ :=
              Program.scan_faulted wellFormed fits scanned
            obtain ⟨tape, value, rfl⟩ := exists_overflow_of_firstOverflow? overflow
            simp only [← current]
            exact .overflow tape value halted scanned
        | fired index rule after => exact .fire index rule after halted allowed scanned

/-- A step keeps the program, the budget and whether firings are recorded. -/
theorem step_keeps (session : Session) :
    session.step.2.program = session.program ∧ session.step.2.recording = session.recording ∧
      session.step.2.fuel = session.fuel := by
  rw [step]
  split
  next => exact ⟨rfl, rfl, rfl⟩
  next =>
    split
    next => exact ⟨rfl, rfl, rfl⟩
    next =>
      split
      next => exact ⟨rfl, rfl, rfl⟩
      next =>
        split
        next => exact ⟨rfl, rfl, rfl⟩
        next => exact ⟨rfl, rfl, rfl⟩
        next =>
          dsimp only
          split
          next => exact ⟨rfl, rfl, rfl⟩
          next => exact ⟨rfl, rfl, rfl⟩

/-- What every step keeps, a run keeps. -/
theorem run_preserves (Invariant : Session → Prop)
    (kept : ∀ session, Invariant session → Invariant session.step.2)
    (session : Session) (holds : Invariant session) : Invariant session.run.2 := by
  fun_induction run session with
  | case1 session error next stepped => simpa [stepped] using kept session holds
  | case2 session next stepped => simpa [stepped] using kept session holds
  | case3 session firing next stepped ih => exact ih (by simpa [stepped] using kept session holds)

/-- The session after a history of actions, whether they succeed or fail. -/
def after (session : Session) (history : List Action) : Session :=
  history.foldl (fun current action => (current.perform action).2) session

/-- What every action of a history keeps, the history keeps. -/
theorem after_preserves (Invariant : Session → Prop) {history : List Action}
    (kept : ∀ action ∈ history, ∀ session, Invariant session →
      Invariant (session.perform action).2)
    (session : Session) (holds : Invariant session) : Invariant (session.after history) := by
  induction history generalizing session with
  | nil => exact holds
  | cons action history ih =>
      apply ih
      · intro other member
        exact kept other (List.mem_cons_of_mem _ member)
      · exact kept action List.mem_cons_self session holds

theorem perform_keeps (session : Session) (action : Action) :
    (session.perform action).2.program = session.program ∧
      (session.perform action).2.recording = session.recording := by
  cases action with
  | load draft =>
      simp only [perform]
      split
      next => exact ⟨rfl, rfl⟩
      next loaded success =>
        obtain ⟨machine, -, -, rfl⟩ := load_eq_ok.1 success
        exact ⟨rfl, rfl⟩
  | step => exact ⟨(step_keeps session).1, (step_keeps session).2.1⟩
  | run =>
      refine run_preserves (fun other =>
        other.program = session.program ∧ other.recording = session.recording) ?_ session ⟨rfl, rfl⟩
      rintro other ⟨sameProgram, sameRecording⟩
      have kept := step_keeps other
      exact ⟨kept.1.trans sameProgram, kept.2.1.trans sameRecording⟩
  | setFuel fuel => exact ⟨rfl, rfl⟩

theorem after_keeps (session : Session) (history : List Action) :
    (session.after history).program = session.program ∧
      (session.after history).recording = session.recording := by
  refine after_preserves (fun other =>
    other.program = session.program ∧ other.recording = session.recording) ?_ session ⟨rfl, rfl⟩
  rintro action - other ⟨sameProgram, sameRecording⟩
  have kept := perform_keeps other action
  exact ⟨kept.1.trans sameProgram, kept.2.trans sameRecording⟩

/-! ## Following a run -/

/-- A recorded firing is the one with that number in the run from `start`. -/
structure Records (program : Program) (start : Machine) (number : Nat) (firing : Firing) :
    Prop where
  step_eq : firing.step = number
  fired : ∃ earlier before after, program.firings start number = some (earlier, before) ∧
    program.scan before = .fired firing.ruleIndex firing.rule after ∧
    firing.before = some before ∧ firing.after = some after

/-- The session stands where the run from `start` is after as many firings: the rules at
`positions` have fired and `machine` has been reached. -/
structure Follows (session : Session) (start : Machine) (positions : List Nat)
    (machine : Machine) : Prop where
  wellFormed : session.program.WellFormed
  fits : start.Fits session.program.tapes
  current : session.machine = some machine
  reached : session.program.firings start session.steps = some (positions, machine)
  halts : session.halted = true → session.program.scan machine = .halted
  traced : session.recording = true → session.trace.toList.map Firing.ruleIndex = positions
  entries : session.recording = true → ∀ number entry, session.trace[number]? = some entry →
    Records session.program start number entry

/-- A loaded session stands at the beginning of the run from the loaded machine. -/
theorem follows_of_load (wellFormed : session.program.WellFormed)
    (loaded : session.load machine.toDraft = .ok next) : next.Follows machine [] machine := by
  obtain ⟨other, same, fits, rfl⟩ := load_eq_ok.1 loaded
  have : machine = other := by
    rw [← Machine.toMachine_toDraft machine, same, Machine.toMachine_toDraft]
  subst this
  exact ⟨wellFormed, fits, rfl, rfl, by simp, by simp, by simp⟩

namespace Follows

theorem machine_fits (follows : session.Follows start positions machine) :
    machine.Fits session.program.tapes :=
  Program.fits_of_firings follows.wellFormed follows.fits follows.reached

theorem stepped (follows : session.Follows start positions machine) :
    session.Stepped machine session.step.1 session.step.2 :=
  step_stepped follows.wellFormed follows.current follows.machine_fits

theorem trace_size (follows : session.Follows start positions machine)
    (recording : session.recording = true) : session.trace.size = session.steps := by
  rw [← Program.length_of_firings follows.reached, ← follows.traced recording]
  simp

/-- A firing continues the run that the session follows. -/
theorem advance {index : Nat} {rule : Rule} {after : Machine}
    (follows : session.Follows start positions machine) (running : session.halted = false)
    (scanned : session.program.scan machine = .fired index rule after) :
    (session.advance (session.firing index rule machine after) after).Follows start
      (positions ++ [index]) after where
  wellFormed := follows.wellFormed
  fits := follows.fits
  current := rfl
  reached := Program.firings_succ_of_fired follows.reached scanned
  halts := by
    intro halted
    simp [Session.advance, running] at halted
  traced := by
    intro recording
    change session.recording = true at recording
    simp [Session.advance, recording, follows.traced recording, firing]
  entries := by
    intro recording number entry found
    change session.recording = true at recording
    simp only [Session.advance, recording, ↓reduceIte, Array.getElem?_push] at found
    split at found
    next last =>
      simp only [Option.some.injEq] at found
      subst found
      rw [follows.trace_size recording] at last
      exact ⟨last.symm, positions, machine, after, last ▸ follows.reached, scanned,
        by simp [firing, recording], by simp [firing, recording]⟩
    next => exact follows.entries recording number entry found

/-- Every step follows the run. -/
theorem step (follows : session.Follows start positions machine) :
    ∃ positions machine, session.step.2.Follows start positions machine := by
  have stepped := follows.stepped
  generalize session.step.1 = answer, session.step.2 = next at stepped ⊢
  cases stepped with
  | rest halted => exact ⟨positions, machine, follows⟩
  | spent running fired spent => exact ⟨positions, machine, follows⟩
  | halt running scanned =>
      exact ⟨positions, machine, follows.wellFormed, follows.fits, follows.current,
        follows.reached, fun _ => scanned, follows.traced, follows.entries⟩
  | overflow tape value running scanned => exact ⟨positions, machine, follows⟩
  | fire index rule after running allowed scanned =>
      exact ⟨_, _, follows.advance running scanned⟩

end Follows

/-- Every attempt of the history to load another machine fails. -/
def NoLoad (session : Session) (history : List Action) : Prop :=
  ∀ draft, Action.load draft ∈ history → ∃ error, session.load draft = .error error

/-- Whether a machine can be loaded depends on the program alone. -/
theorem load_fails_of_program_eq {other : Session} {draft : DraftMachine}
    (same : other.program = session.program) (fails : ∃ error, session.load draft = .error error) :
    ∃ error, other.load draft = .error error := by
  cases loaded : other.load draft with
  | error error => exact ⟨error, rfl⟩
  | ok next =>
      obtain ⟨machine, rfl, fits, -⟩ := load_eq_ok.1 loaded
      obtain ⟨error, failed⟩ := fails
      obtain ⟨again, succeeds⟩ : ∃ next, session.load machine.toDraft = .ok next :=
        ⟨_, load_eq_ok.2 ⟨machine, rfl, same ▸ fits, rfl⟩⟩
      rw [failed] at succeeds
      simp at succeeds

/-- The budget that an action sets. -/
def Action.fuel? : Action → Option Int
  | .setFuel fuel => some fuel
  | .load _ | .step | .run => none

/-- The largest budget in effect while a history is performed from the given budget on. -/
def largestFuel (fuel : Int) (history : List Action) : Int :=
  (history.filterMap Action.fuel?).foldl max fuel

theorem le_foldl_max (bound : Int) (fuels : List Int) :
    bound ≤ fuels.foldl max bound ∧ ∀ fuel ∈ fuels, fuel ≤ fuels.foldl max bound := by
  induction fuels generalizing bound with
  | nil => simp
  | cons first fuels ih =>
      obtain ⟨above, all⟩ := ih (max bound first)
      simp only [List.foldl_cons, List.mem_cons, forall_eq_or_imp]
      exact ⟨by omega, by omega, all⟩

/-- The invariant of a history: the session follows the run from `start`, and it has fired no more
than a bound on its budgets allows. Without any budget the first firing is still allowed. -/
structure Tracks (session : Session) (start : Machine) (bound : Int) : Prop where
  follows : ∃ positions machine, session.Follows start positions machine
  fuel_le : session.fuel ≤ bound
  steps_le : (session.steps : Int) ≤ max 1 bound

namespace Tracks

variable {bound : Int}

theorem step (tracks : session.Tracks start bound) : session.step.2.Tracks start bound := by
  obtain ⟨positions, machine, follows⟩ := tracks.follows
  refine ⟨follows.step, ?_, ?_⟩
  · rw [(step_keeps session).2.2]
    exact tracks.fuel_le
  · have stepped := follows.stepped
    generalize session.step.1 = answer, session.step.2 = next at stepped ⊢
    cases stepped with
    | rest halted => exact tracks.steps_le
    | spent running fired spent => exact tracks.steps_le
    | halt running scanned => exact tracks.steps_le
    | overflow tape value running scanned => exact tracks.steps_le
    | fire index rule after running allowed scanned =>
        have := tracks.fuel_le
        simp only [advance]
        omega

theorem perform {action : Action} (tracks : session.Tracks start bound)
    (fails : ∀ draft, action = .load draft → ∃ error, session.load draft = .error error)
    (budget : ∀ fuel, action = .setFuel fuel → fuel ≤ bound) :
    (session.perform action).2.Tracks start bound := by
  cases action with
  | load draft =>
      obtain ⟨error, failed⟩ := fails draft rfl
      simpa [Session.perform, failed] using tracks
  | step => exact tracks.step
  | run =>
      exact run_preserves (fun other => other.Tracks start bound)
        (fun other tracks => tracks.step) session tracks
  | setFuel fuel =>
      obtain ⟨positions, machine, follows⟩ := tracks.follows
      exact ⟨⟨positions, machine, follows.wellFormed, follows.fits, follows.current,
        follows.reached, follows.halts, follows.traced, follows.entries⟩,
        budget fuel rfl, tracks.steps_le⟩

/-- What is done in a history without a successful load keeps the invariant. The program is part of
it because a load is only known to fail for this program. -/
theorem kept {history : List Action} (noLoad : session.NoLoad history)
    (budget : ∀ fuel, Action.setFuel fuel ∈ history → fuel ≤ bound) :
    ∀ action ∈ history, ∀ other : Session,
      other.program = session.program ∧ other.Tracks start bound →
      (other.perform action).2.program = session.program ∧
        (other.perform action).2.Tracks start bound := by
  rintro action member other ⟨same, tracks⟩
  refine ⟨(perform_keeps other action).1.trans same, tracks.perform ?_ ?_⟩
  · rintro draft rfl
    exact load_fails_of_program_eq same (noLoad draft member)
  · rintro fuel rfl
    exact budget fuel member

/-- Whatever is done to a session short of a successful load, it follows the run from the loaded
machine. -/
theorem after {history : List Action} (tracks : session.Tracks start bound)
    (noLoad : session.NoLoad history)
    (budget : ∀ fuel, Action.setFuel fuel ∈ history → fuel ≤ bound) :
    (session.after history).Tracks start bound := by
  have invariant : (session.after history).program = session.program ∧
      (session.after history).Tracks start bound :=
    after_preserves (fun other => other.program = session.program ∧ other.Tracks start bound)
      (kept noLoad budget) session ⟨rfl, tracks⟩
  exact invariant.2

end Tracks

/-- A loaded session is within every bound on its budget. -/
theorem tracks_loaded {bound : Int} (wellFormed : session.program.WellFormed)
    (loaded : session.load machine.toDraft = .ok next) (within : next.fuel ≤ bound) :
    next.Tracks machine bound := by
  have fresh : next.steps = 0 := by
    obtain ⟨other, -, -, rfl⟩ := load_eq_ok.1 loaded
    rfl
  exact ⟨⟨[], machine, follows_of_load wellFormed loaded⟩, within, by omega⟩

/-- No budget of a history is above the largest. -/
theorem le_largestFuel {history : List Action} {bound fuel : Int}
    (member : Action.setFuel fuel ∈ history) : fuel ≤ largestFuel bound history :=
  (le_foldl_max bound (history.filterMap Action.fuel?)).2 fuel
    (List.mem_filterMap.2 ⟨.setFuel fuel, member, rfl⟩)

/-- After a load, every history without another one follows the run from the loaded machine, within
the largest budget that was in effect. -/
theorem tracks_of_load {history : List Action} (wellFormed : session.program.WellFormed)
    (loaded : session.load machine.toDraft = .ok next) (noLoad : next.NoLoad history) :
    (next.after history).Tracks machine (largestFuel next.fuel history) := by
  have tracks : next.Tracks machine (largestFuel next.fuel history) :=
    tracks_loaded wellFormed loaded (le_foldl_max next.fuel _).1
  exact tracks.after noLoad fun _ member => le_largestFuel member

end CounterMachine.Session
