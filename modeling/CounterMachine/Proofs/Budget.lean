import CounterMachine.Proofs.History

/-!
# Runs under a budget

How a one-shot run ends, in terms of the firings of the program. A run that stops by itself after
`count` firings is affordable if `count` is zero or below the budget: the check after a firing is
strict, and the check before one is not made for a fresh machine. An affordable stop is reported as
what it is, a halt or an overflow; if the run does not stop in time, it is out of fuel.
-/

namespace CounterMachine

variable {program : Program} {machine final : Machine} {fuel : Int} {count : Nat}
  {positions : List Nat}

/-- The budget lets a run see what happens after `count` firings. -/
def Affordable (fuel : Int) (count : Nat) : Prop :=
  count = 0 ∨ (count : Int) < fuel

theorem Affordable.mono {fewer : Nat} (affordable : Affordable fuel count) (le : fewer ≤ count) :
    Affordable fuel fewer := by
  unfold Affordable at *
  omega

theorem Affordable.of_succ (affordable : Affordable fuel (count + 1)) : Affordable fuel count :=
  affordable.mono (Nat.le_succ count)

namespace Session

/-- A run is a step, and the run from where it leads if a rule has fired. -/
theorem run_eq (session : Session) :
    session.run =
      match session.step with
      | (.error error, next) => (.error error, next)
      | (.ok none, next) => (.ok (), next)
      | (.ok (some _), next) => next.run := by
  rw [run]
  split
  next stepped => simp [stepped]
  next stepped => simp [stepped]
  next stepped => simp [stepped]

/-- A session that records nothing and has not halted. -/
def oneShot (program : Program) (fuel : Int) (machine : Machine) (steps : Nat) : Session where
  program := program
  fuel := fuel
  recording := false
  machine := some machine
  steps := steps

theorem step_oneShot (affordable : Affordable fuel count) :
    (oneShot program fuel machine count).step =
      match program.scan machine with
      | .halted => (.ok none, { oneShot program fuel machine count with halted := true })
      | .faulted fault left => (.error (.fault fault), oneShot program fuel left count)
      | .fired index rule after =>
          (if fuel ≤ (count + 1 : Nat) then .error (.outOfFuel fuel (count + 1))
          else .ok (some ((oneShot program fuel machine count).firing index rule machine after)),
          oneShot program fuel after (count + 1)) := by
  have stepped := @step_of_running (oneShot program fuel machine count) machine rfl rfl affordable
  rw [stepped]
  simp only [oneShot, advance]
  rfl

/-- The firings that a budget affords take a session along. -/
theorem run_of_firings (affordable : Affordable fuel count)
    (reached : program.firings machine count = some (positions, final)) :
    (oneShot program fuel machine 0).run = (oneShot program fuel final count).run := by
  induction count generalizing positions final with
  | zero =>
      cases reached
      rfl
  | succ count ih =>
      obtain ⟨earlier, middle, index, rule, before, fired, -⟩ :=
        Program.firings_succ_eq_some.1 reached
      have notSpent : ¬ fuel ≤ (count + 1 : Nat) := by
        unfold Affordable at affordable
        omega
      rw [ih affordable.of_succ before, run_eq, step_oneShot affordable.of_succ, fired]
      simp only [if_neg notSpent]

end Session

section Interpret

open Session (oneShot)

variable (wellFormed : program.WellFormed) (fits : machine.Fits program.tapes) (nonneg : 0 ≤ fuel)
include wellFormed fits nonneg

theorem interpret_eq_run :
    interpret machine.toDraft program.toDraft fuel =
      match (oneShot program fuel machine 0).run with
      | (.error error, _) => .error error
      | (.ok (), final) =>
          match final.machine with
          | none => .error .noMachine
          | some machine => .ok (final.steps, machine) := by
  have opened := Session.start_toDraft wellFormed nonneg false
  have loaded : Session.load { program, fuel, recording := false } machine.toDraft =
      .ok (oneShot program fuel machine 0) :=
    Session.load_toDraft fits
  cases ran : (oneShot program fuel machine 0).run with
  | mk answer final =>
      cases answer with
      | error error => simp only [interpret, opened, loaded, ran, bind, Except.bind]
      | ok done =>
          cases stands : final.machine with
          | none => simp only [interpret, opened, loaded, ran, stands, bind, Except.bind]
          | some machine => simp only [interpret, opened, loaded, ran, stands, bind, Except.bind]

theorem interpret_of_halted (affordable : Affordable fuel count)
    (reached : program.firings machine count = some (positions, final))
    (halted : program.scan final = .halted) :
    interpret machine.toDraft program.toDraft fuel = .ok (count, final) := by
  rw [interpret_eq_run wellFormed fits nonneg, Session.run_of_firings affordable reached,
    Session.run_eq, Session.step_oneShot affordable, halted]
  rfl

theorem interpret_of_faulted {fault : Fault} {left : Machine} (affordable : Affordable fuel count)
    (reached : program.firings machine count = some (positions, final))
    (faulted : program.scan final = .faulted fault left) :
    interpret machine.toDraft program.toDraft fuel = .error (.fault fault) := by
  rw [interpret_eq_run wellFormed fits nonneg, Session.run_of_firings affordable reached,
    Session.run_eq, Session.step_oneShot affordable, faulted]

theorem interpret_of_spent (affordable : Affordable fuel count) (spent : fuel ≤ (count + 1 : Nat))
    (reached : program.firings machine (count + 1) = some (positions, final)) :
    interpret machine.toDraft program.toDraft fuel = .error (.outOfFuel fuel (count + 1)) := by
  obtain ⟨earlier, middle, index, rule, before, fired, -⟩ :=
    Program.firings_succ_eq_some.1 reached
  rw [interpret_eq_run wellFormed fits nonneg, Session.run_of_firings affordable before,
    Session.run_eq, Session.step_oneShot affordable, fired]
  simp only [if_pos spent]

/-- A one-shot run ends in one of three ways. -/
theorem interpret_cases :
    (∃ count positions final, program.firings machine count = some (positions, final) ∧
      Affordable fuel count ∧ program.scan final = .halted ∧
      interpret machine.toDraft program.toDraft fuel = .ok (count, final)) ∨
    (∃ count positions final fault, program.firings machine count = some (positions, final) ∧
      Affordable fuel count ∧ program.scan final = .faulted fault final ∧
      interpret machine.toDraft program.toDraft fuel = .error (.fault fault)) ∨
    ∃ count, interpret machine.toDraft program.toDraft fuel = .error (.outOfFuel fuel count) := by
  -- this many firings use up the budget, and even an empty one allows the first
  rcases program.firings_or_stops machine ((fuel - 1).toNat + 1) with
    ⟨positions, final, reached⟩ | ⟨count, below, positions, final, reached, stops⟩
  · refine .inr (.inr ⟨_, interpret_of_spent wellFormed fits nonneg ?_ ?_ reached⟩)
    · unfold Affordable
      omega
    · omega
  · have affordable : Affordable fuel count := by
      unfold Affordable
      omega
    cases scanned : program.scan final with
    | fired index rule after => exact absurd scanned (stops index rule after)
    | halted =>
        exact .inl ⟨count, positions, final, reached, affordable, scanned,
          interpret_of_halted wellFormed fits nonneg affordable reached scanned⟩
    | faulted fault left =>
        have finalFits := Program.fits_of_firings wellFormed fits reached
        obtain ⟨-, -, -, -, -, rfl⟩ := Program.scan_faulted wellFormed finalFits scanned
        exact .inr (.inl ⟨count, positions, left, fault, reached, affordable, scanned,
          interpret_of_faulted wellFormed fits nonneg affordable reached scanned⟩)

theorem interpret_eq_ok_iff :
    interpret machine.toDraft program.toDraft fuel = .ok (count, final) ↔
      ∃ positions, program.firings machine count = some (positions, final) ∧
        Affordable fuel count ∧ program.scan final = .halted := by
  constructor
  · intro returned
    rcases interpret_cases wellFormed fits nonneg with
      ⟨_, positions, _, reached, affordable, halted, same⟩ | ⟨_, _, _, _, -, -, -, same⟩ |
      ⟨_, same⟩
    · rw [same] at returned
      simp only [Except.ok.injEq, Prod.mk.injEq] at returned
      obtain ⟨rfl, rfl⟩ := returned
      exact ⟨positions, reached, affordable, halted⟩
    · simp [same] at returned
    · simp [same] at returned
  · intro ⟨positions, reached, affordable, halted⟩
    exact interpret_of_halted wellFormed fits nonneg affordable reached halted

theorem interpret_eq_fault_iff {fault : Fault} :
    interpret machine.toDraft program.toDraft fuel = .error (.fault fault) ↔
      ∃ count positions final, program.firings machine count = some (positions, final) ∧
        Affordable fuel count ∧ program.scan final = .faulted fault final := by
  constructor
  · intro raised
    rcases interpret_cases wellFormed fits nonneg with
      ⟨_, _, _, -, -, -, same⟩ | ⟨count, positions, final, _, reached, affordable, faulted, same⟩ |
      ⟨_, same⟩
    · simp [same] at raised
    · rw [same] at raised
      simp only [Except.error.injEq, RunError.fault.injEq] at raised
      subst raised
      exact ⟨count, positions, final, reached, affordable, faulted⟩
    · simp [same] at raised
  · intro ⟨count, positions, final, reached, affordable, faulted⟩
    exact interpret_of_faulted wellFormed fits nonneg affordable reached faulted

end Interpret

/-- A run that returns has been given a machine that fits and fuel that is not negative. -/
theorem gate_of_interpret {draft : DraftMachine} {result : Nat × Machine}
    (returned : interpret draft program.toDraft fuel = .ok result) :
    0 ≤ fuel ∧ ∃ machine : Machine, draft = machine.toDraft ∧ machine.Fits program.tapes := by
  cases opened : Session.start program.toDraft fuel false with
  | error error => simp [interpret, opened, bind, Except.bind] at returned
  | ok session =>
      cases loaded : session.load draft with
      | error error => simp [interpret, opened, loaded, bind, Except.bind] at returned
      | ok next =>
          rcases Session.start_eq_ok.1 opened with ⟨other, same, -, nonneg, rfl⟩
          rcases Session.load_eq_ok.1 loaded with ⟨machine, rfl, fits, -⟩
          have : program = other := by
            rw [← Program.toProgram_toDraft program, same, Program.toProgram_toDraft]
          subst this
          exact ⟨nonneg, machine, rfl, fits⟩

end CounterMachine
