import CounterMachine.Proofs.Budget
import CounterMachine.Proofs.Reference

/-!
# Outcomes of one-shot runs

A one-shot run ends as the reference trajectory and the budget say, whatever sessions it takes to
find out. The trajectory halts or overflows after a number of firings that the budget affords, or it
goes on beyond the budget; in each case there is exactly one outcome, and `interpret` gives it.
A machine that does not fit is refused before anything fires.
-/

namespace CounterMachine

variable {program : Program} {start machine final : Machine} {fuel more : Int} {count : Nat}
  {result : Except RunError (Nat × Machine)}

namespace Program

/-- How a run from a machine ends under a budget, said with the reference trajectory alone. The
budget is strict: as many firings as it has units are too many, but a run that fires nothing needs
none, and the first firing is carried out in any case. -/
inductive Concludes (program : Program) (start : Machine) (fuel : Int) :
    Except RunError (Nat × Machine) → Prop where
  | halts {count : Nat} {final : Machine} (reached : program.trajectory start count = some final)
      (halted : program.next final = .halt) (affordable : count = 0 ∨ (count : Int) < fuel) :
      Concludes program start fuel (.ok (count, final))
  | overflows {count tape : Nat} {last : Machine} {value : Int}
      (reached : program.trajectory start count = some last)
      (overflowed : program.next last = .overflow tape value)
      (affordable : count = 0 ∨ (count : Int) < fuel) :
      Concludes program start fuel (.error (.fault (.overflow tape value)))
  | spends {count : Nat} {last : Machine} (all : (count : Int) = max fuel 1)
      (reached : program.trajectory start count = some last) :
      Concludes program start fuel (.error (.outOfFuel fuel count))

/-- A larger budget matters only to a run that spends the smaller one. -/
theorem Concludes.mono (concludes : program.Concludes start fuel result) (le : fuel ≤ more)
    (unspent : ∀ steps, result ≠ .error (.outOfFuel fuel steps)) :
    program.Concludes start more result := by
  cases concludes with
  | halts reached halted affordable => exact .halts reached halted (by omega)
  | overflows reached overflowed affordable => exact .overflows reached overflowed (by omega)
  | spends all reached => exact absurd rfl (unspent _)

section Fitting

variable (wellFormed : program.WellFormed) (fits : machine.Fits program.tapes)
include wellFormed fits

/-- Machines on the trajectory are reached by firings. -/
theorem exists_firings_of_trajectory (reached : program.trajectory machine count = some final) :
    ∃ positions, program.firings machine count = some (positions, final) := by
  rw [trajectory_eq_firings wellFormed fits, Option.map_eq_some_iff] at reached
  obtain ⟨⟨positions, last⟩, fired, rfl⟩ := reached
  exact ⟨positions, fired⟩

/-- A scan can only fault where the reference step overflows. -/
theorem next_of_faulted {fault : Fault} {left : Machine}
    (faulted : program.scan machine = .faulted fault left) :
    ∃ tape value, fault = .overflow tape value ∧ left = machine ∧
      program.next machine = .overflow tape value := by
  obtain ⟨before, rule, rest, -, overflow, same⟩ := scan_faulted wellFormed fits faulted
  obtain ⟨tape, value, rfl⟩ := exists_overflow_of_firstOverflow? overflow
  exact ⟨tape, value, rfl, same, next_of_overflow wellFormed fits faulted⟩

theorem scan_of_halt (halted : program.next machine = .halt) :
    program.scan machine = .halted := by
  cases scanned : program.scan machine with
  | fired index rule after =>
      rw [next_of_fired wellFormed fits scanned] at halted
      cases halted
  | halted => rfl
  | faulted fault left =>
      obtain ⟨tape, value, -, -, overflowed⟩ := next_of_faulted wellFormed fits scanned
      rw [overflowed] at halted
      cases halted

theorem scan_of_overflow {tape : Nat} {value : Int}
    (overflowed : program.next machine = .overflow tape value) :
    program.scan machine = .faulted (.overflow tape value) machine := by
  cases scanned : program.scan machine with
  | fired index rule after =>
      rw [next_of_fired wellFormed fits scanned] at overflowed
      cases overflowed
  | halted =>
      rw [next_of_halted wellFormed fits scanned] at overflowed
      cases overflowed
  | faulted fault left =>
      obtain ⟨otherTape, otherValue, rfl, rfl, same⟩ := next_of_faulted wellFormed fits scanned
      rw [overflowed] at same
      cases same
      rfl

/-- Under every budget there is an outcome. -/
theorem exists_concludes (fuel : Int) : ∃ result, program.Concludes machine fuel result := by
  -- this many firings spend the budget, and even an empty one pays for the first
  rcases program.firings_or_stops machine (max fuel 1).toNat with
    ⟨positions, last, fired⟩ | ⟨count, below, positions, last, fired, stops⟩
  · exact ⟨_, .spends (by omega) (trajectory_of_firings wellFormed fits fired)⟩
  · have reached := trajectory_of_firings wellFormed fits fired
    have lastFits := fits_of_firings wellFormed fits fired
    have affordable : count = 0 ∨ (count : Int) < fuel := by omega
    cases scanned : program.scan last with
    | fired index rule after => exact absurd scanned (stops index rule after)
    | halted => exact ⟨_, .halts reached (next_of_halted wellFormed lastFits scanned) affordable⟩
    | faulted fault left =>
        obtain ⟨tape, value, -, -, overflowed⟩ := next_of_faulted wellFormed lastFits scanned
        exact ⟨_, .overflows reached overflowed affordable⟩

end Fitting

end Program

section Interpret

variable (wellFormed : program.WellFormed)
include wellFormed

theorem interpret_of_concludes (fits : machine.Fits program.tapes) (nonneg : 0 ≤ fuel)
    (concludes : program.Concludes machine fuel result) :
    interpret machine.toDraft program.toDraft fuel = result := by
  cases concludes with
  | halts reached halted affordable =>
      obtain ⟨positions, fired⟩ := Program.exists_firings_of_trajectory wellFormed fits reached
      have finalFits := Program.fits_of_firings wellFormed fits fired
      exact interpret_of_halted wellFormed fits nonneg affordable fired
        (Program.scan_of_halt wellFormed finalFits halted)
  | overflows reached overflowed affordable =>
      obtain ⟨positions, fired⟩ := Program.exists_firings_of_trajectory wellFormed fits reached
      have lastFits := Program.fits_of_firings wellFormed fits fired
      exact interpret_of_faulted wellFormed fits nonneg affordable fired
        (Program.scan_of_overflow wellFormed lastFits overflowed)
  | @spends count last all reached =>
      obtain ⟨positions, fired⟩ := Program.exists_firings_of_trajectory wellFormed fits reached
      obtain ⟨before, rfl⟩ : ∃ before, count = before + 1 := ⟨count - 1, by omega⟩
      exact interpret_of_spent wellFormed fits nonneg (by unfold Affordable; omega) (by omega) fired

/-- What concludes a run is unique, so it is what the run returns or raises. -/
theorem interpret_eq_iff (fits : machine.Fits program.tapes) (nonneg : 0 ≤ fuel) :
    interpret machine.toDraft program.toDraft fuel = result ↔
      program.Concludes machine fuel result := by
  constructor
  · rintro rfl
    obtain ⟨result, concludes⟩ := Program.exists_concludes wellFormed fits fuel
    rw [interpret_of_concludes wellFormed fits nonneg concludes]
    exact concludes
  · exact interpret_of_concludes wellFormed fits nonneg

theorem interpret_of_refused {refusal : Refusal} (nonneg : 0 ≤ fuel)
    (refused : machine.toDraft.accept program.tapes = .error refusal) :
    interpret machine.toDraft program.toDraft fuel = .error (.malformed refusal) := by
  simp [interpret, Session.start_toDraft wellFormed nonneg, Session.load, refused, bind,
    Except.bind]

/-- A machine that does not fit is refused. -/
theorem interpret_of_not_fits (misfit : ¬ machine.Fits program.tapes) (nonneg : 0 ≤ fuel) :
    ∃ refusal, interpret machine.toDraft program.toDraft fuel = .error (.malformed refusal) := by
  cases accepted : machine.toDraft.accept program.tapes with
  | error refusal => exact ⟨refusal, interpret_of_refused wellFormed nonneg accepted⟩
  | ok other =>
      obtain ⟨same, fits⟩ := DraftMachine.accept_eq_ok.1 accepted
      have : machine = other := by
        rw [← Machine.toMachine_toDraft machine, same, Machine.toMachine_toDraft]
      exact absurd (this ▸ fits) misfit

end Interpret

/-- A one-shot run of an accepted program on an accepted machine is the reference semantics cut off
by the budget. It returns where the trajectory halts after an affordable number of firings, raises
the overflow that the trajectory meets after an affordable number of firings, and is otherwise out
of fuel, after as many firings as the budget has units and after one if it has none. More fuel
changes no result and no overflow. -/
theorem interpret_eq_iff_concludes (draft : DraftProgram) (program : Program)
    (valid : draft.accept = .ok program) (machineDraft : DraftMachine) (machine : Machine)
    (machineValid : machineDraft.accept program.tapes = .ok machine) (fuel : Int)
    (nonneg : 0 ≤ fuel) :
    (∀ result, interpret machineDraft draft fuel = result ↔
      program.Concludes machine fuel result) ∧
    ∀ more result, fuel ≤ more → interpret machineDraft draft fuel = result →
      (∀ steps, result ≠ .error (.outOfFuel fuel steps)) →
      interpret machineDraft draft more = result := by
  obtain ⟨rfl, wellFormed⟩ := DraftProgram.accept_eq_ok.1 valid
  obtain ⟨rfl, fits⟩ := DraftMachine.accept_eq_ok.1 machineValid
  refine ⟨fun _ => interpret_eq_iff wellFormed fits nonneg, ?_⟩
  intro more result le concluded unspent
  have concludes := (interpret_eq_iff wellFormed fits nonneg).1 concluded
  exact interpret_of_concludes wellFormed fits (by omega) (concludes.mono le unspent)

/-- A machine that halts after two firings, on a budget of two, of three and of more, and a machine
that overflows at once, without any budget. -/
theorem interpret_eq_iff_concludes_boundary :
    interpret (Machine.toDraft ⟨0, [0, 2]⟩) (Program.toDraft ⟨2, [⟨0, 0, [1, -1]⟩]⟩) 2 =
      .error (.outOfFuel 2 2) ∧
    interpret (Machine.toDraft ⟨0, [0, 2]⟩) (Program.toDraft ⟨2, [⟨0, 0, [1, -1]⟩]⟩) 3 =
      .ok (2, ⟨0, [2, 0]⟩) ∧
    interpret (Machine.toDraft ⟨0, [0, 2]⟩) (Program.toDraft ⟨2, [⟨0, 0, [1, -1]⟩]⟩) maxValue =
      .ok (2, ⟨0, [2, 0]⟩) ∧
    interpret (Machine.toDraft ⟨0, [maxValue, 2]⟩) (Program.toDraft ⟨2, [⟨0, 0, [1, -1]⟩]⟩) 0 =
      .error (.fault (.overflow 0 (maxValue + 1))) := by
  have concludes := interpret_eq_iff_concludes (Program.toDraft ⟨2, [⟨0, 0, [1, -1]⟩]⟩)
    ⟨2, [⟨0, 0, [1, -1]⟩]⟩ rfl
  have moves := concludes (Machine.toDraft ⟨0, [0, 2]⟩) ⟨0, [0, 2]⟩ rfl
  have full := concludes (Machine.toDraft ⟨0, [maxValue, 2]⟩) ⟨0, [maxValue, 2]⟩ rfl
  have returned := ((moves 3 (by decide)).1 (.ok (2, ⟨0, [2, 0]⟩))).2
    (.halts rfl (by decide) (.inr (by decide)))
  refine ⟨?_, returned, ?_, ?_⟩
  · exact ((moves 2 (by decide)).1 _).2 (.spends rfl rfl)
  · exact (moves 3 (by decide)).2 maxValue _ (by decide) returned (by simp)
  · exact ((full 0 (by decide)).1 _).2 (.overflows rfl (by decide) (.inl rfl))

end CounterMachine
