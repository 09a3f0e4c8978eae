import CounterMachine.Library.Arithmetic
import CounterMachine.Proofs.Outcome
import CounterMachine.Proofs.Recording

/-!
# Running a library program

What an arithmetic function returns or raises is what the run of its program comes to, and that can
be read off the reference trajectory. So can the run of a session on such a program, whether it
records its firings or not and whatever its budget.
-/

namespace CounterMachine

variable {program : Program} {start final : Machine} {fuel : Int} {count : Nat}

/-- A session that is given the budget after the machine has been loaded takes that machine to
another in a number of firings and halts. No session is opened on a budget below zero, but it can be
set. -/
def Program.HaltsInSession (program : Program) (fuel : Int) (start : Machine) (count : Nat)
    (final : Machine) : Prop :=
  ∀ (opening : Int) (recording : Bool), 0 ≤ opening → ∃ session loaded ended,
    Session.start program.toDraft opening recording = .ok session ∧
      session.load start.toDraft = .ok loaded ∧
      (loaded.setFuel fuel).run = (.ok (), ended) ∧
      ended.steps = count ∧ ended.halted = true ∧ ended.machine = some final

section Halting

variable (wellFormed : program.WellFormed) (fits : start.Fits program.tapes)
  (affordable : Affordable fuel count) (reached : program.trajectory start count = some final)
  (halted : program.next final = .halt)
include wellFormed fits affordable reached halted

theorem Session.run_of_trajectory (recording : Bool) :
    ∃ ended, Session.run { program, fuel, recording, machine := some start } = (.ok (), ended) ∧
      ended.steps = count ∧ ended.halted = true ∧ ended.machine = some final := by
  obtain ⟨positions, fired⟩ := Program.exists_firings_of_trajectory wellFormed fits reached
  have finalFits := Program.fits_of_firings wellFormed fits fired
  have oneShotRun : (oneShot program fuel start 0).run =
      (.ok (), { oneShot program fuel final count with halted := true }) := by
    rw [run_of_firings affordable fired, run_eq, step_oneShot affordable,
      Program.scan_of_halt wellFormed finalFits halted]
  -- the session differs from that of a one-shot run only in its record
  have bare := run_unrecorded { program, fuel, recording, machine := some start }
  have same : unrecorded { program, fuel, recording, machine := some start } =
      oneShot program fuel start 0 := rfl
  rw [same, oneShotRun] at bare
  obtain ⟨answer, left⟩ := Prod.mk.inj bare
  exact ⟨_, Prod.ext answer.symm rfl, (congrArg Session.steps left).symm,
    (congrArg Session.halted left).symm, (congrArg Session.machine left).symm⟩

/-- A trajectory that halts after an affordable number of firings is run to its end. -/
theorem Program.haltsInSession_of_trajectory :
    program.HaltsInSession fuel start count final := by
  intro opening recording nonneg
  obtain ⟨ended, ran, standing⟩ :=
    Session.run_of_trajectory wellFormed fits affordable reached halted recording
  have loaded := @Session.load_toDraft { program, fuel := opening, recording } start fits
  exact ⟨_, _, ended, Session.start_toDraft wellFormed nonneg recording, loaded, ran, standing⟩

end Halting

namespace Library

variable {counters : List Int}

/-- What is computed is tape 0 of the machine in which the run halts. -/
theorem compute_of_ok
    (returned : interpret (Machine.toDraft ⟨0, counters⟩) program.toDraft fuel =
      .ok (count, final)) :
    compute program counters fuel = .ok (final.counters.headD 0) := by
  simp only [compute, returned]

theorem compute_of_error {error : RunError}
    (raised : interpret (Machine.toDraft ⟨0, counters⟩) program.toDraft fuel = .error error) :
    compute program counters fuel = .error (.run error) := by
  simp only [compute, raised]

theorem compute_of_not_fits (wellFormed : program.WellFormed) (nonneg : 0 ≤ fuel)
    (misfit : ¬ Machine.Fits program.tapes ⟨0, counters⟩) :
    ∃ refusal, compute program counters fuel = .error (.run (.malformed refusal)) := by
  obtain ⟨refusal, refused⟩ := interpret_of_not_fits wellFormed misfit nonneg
  exact ⟨refusal, compute_of_error refused⟩

/-- A program that decides every start that fits is never out of fuel, for all other starts are
refused. -/
theorem compute_ne_outOfFuel {spent : Int} {steps : Nat} (wellFormed : program.WellFormed)
    (nonneg : 0 ≤ fuel)
    (decides : Machine.Fits program.tapes ⟨0, counters⟩ →
      (∃ value, compute program counters fuel = .ok value) ∨
        ∃ fault, compute program counters fuel = .error (.run (.fault fault))) :
    compute program counters fuel ≠ .error (.run (.outOfFuel spent steps)) := by
  intro exhausted
  by_cases fits : Machine.Fits program.tapes ⟨0, counters⟩
  · rcases decides fits with ⟨value, returned⟩ | ⟨fault, raised⟩
    · rw [returned] at exhausted
      cases exhausted
    · rw [raised] at exhausted
      cases exhausted
  · obtain ⟨refusal, refused⟩ := compute_of_not_fits wellFormed nonneg fits
    rw [refused] at exhausted
    cases exhausted

end Library

end CounterMachine
