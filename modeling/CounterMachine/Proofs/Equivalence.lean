import CounterMachine.Proofs.Budget
import CounterMachine.Proofs.Replay

/-!
# The single-state form has the outcomes of its source

A one-shot run of the single-state form ends as the run of its source program does. A budget that
suffices for the source suffices, doubled, for the single-state form, because no firing is replayed
by more than two. In the other direction the same budget suffices, because every firing of the
source takes at least one.
-/

namespace CounterMachine.Elimination

variable {program : Program} {machine final : Machine} {fuel : Int} {count : Nat}
  {indices : List Nat} {blocks : List (List Nat)}

theorem affordable_encodedFuel (reached : program.firings machine count = some (indices, final))
    (replays : List.Forall₂ (Replays program) indices blocks) (affordable : Affordable fuel count) :
    Affordable (encodedFuel fuel) blocks.flatten.length := by
  have length := Program.length_of_firings reached
  have loops := List.countP_le_length (p := loopsAt program) (l := indices)
  rw [length_flatten_of_replays replays]
  unfold Affordable encodedFuel at *
  omega

theorem encodedFuel_nonneg (nonneg : 0 ≤ fuel) : 0 ≤ encodedFuel fuel := by
  unfold encodedFuel
  omega

theorem works_le_of_firings (program : Program) {single : Program} {first last : Machine}
    {positions : List Nat} (reached : single.firings first count = some (positions, last)) :
    positions.countP (fun position => !isReturn program position) ≤ count := by
  rw [← Program.length_of_firings reached]
  exact List.countP_le_length

section Outcome

variable (wellFormed : program.WellFormed) (fits : machine.Fits program.tapes) (nonneg : 0 ≤ fuel)
include wellFormed fits nonneg

theorem interpret_singleForm_of_ok
    (returned : interpret machine.toDraft program.toDraft fuel = .ok (count, final)) :
    ∃ more, interpret (encoded program machine).toDraft (singleForm program).toDraft
        (encodedFuel fuel) = .ok (more, encoded program final) ∧
      count ≤ more ∧ more ≤ 2 * count := by
  obtain ⟨indices, reached, affordable, halted⟩ :=
    (interpret_eq_ok_iff wellFormed fits nonneg).1 returned
  obtain ⟨blocks, replays, replayed⟩ := firings_encoded wellFormed fits reached
  have length := Program.length_of_firings reached
  have loops := List.countP_le_length (p := loopsAt program) (l := indices)
  refine ⟨blocks.flatten.length, ?_, ?_, ?_⟩
  · exact interpret_of_halted (wellFormed_singleForm wellFormed) (fits_encoded fits)
      (encodedFuel_nonneg nonneg) (affordable_encodedFuel reached replays affordable) replayed
      (scan_encoded_of_halted wellFormed (Program.fits_of_firings wellFormed fits reached) halted)
  · rw [length_flatten_of_replays replays]
    omega
  · rw [length_flatten_of_replays replays]
    omega

theorem interpret_singleForm_of_fault {fault : Fault}
    (raised : interpret machine.toDraft program.toDraft fuel = .error (.fault fault)) :
    interpret (encoded program machine).toDraft (singleForm program).toDraft (encodedFuel fuel) =
      .error (.fault fault) := by
  obtain ⟨count, indices, final, reached, affordable, faulted⟩ :=
    (interpret_eq_fault_iff wellFormed fits nonneg).1 raised
  obtain ⟨blocks, replays, replayed⟩ := firings_encoded wellFormed fits reached
  exact interpret_of_faulted (wellFormed_singleForm wellFormed) (fits_encoded fits)
    (encodedFuel_nonneg nonneg) (affordable_encodedFuel reached replays affordable) replayed
    (scan_encoded_of_faulted wellFormed (Program.fits_of_firings wellFormed fits reached) faulted)

theorem interpret_of_singleForm_ok {more : Nat} {last : Machine}
    (returned : interpret (encoded program machine).toDraft (singleForm program).toDraft fuel =
      .ok (more, last)) :
    ∃ count final, interpret machine.toDraft program.toDraft fuel = .ok (count, final) ∧
      final.Fits program.tapes ∧ last = encoded program final := by
  obtain ⟨positions, replayed, affordable, halted⟩ :=
    (interpret_eq_ok_iff (wellFormed_singleForm wellFormed) (fits_encoded fits) nonneg).1 returned
  obtain ⟨indices, reached, ran, emulates⟩ := emulates_of_firings wellFormed fits replayed
  have reachedFits := Program.fits_of_firings wellFormed fits ran
  obtain ⟨same, sourceHalted⟩ := emulates.halted wellFormed reachedFits halted
  have fewer := affordable.mono (works_le_of_firings program replayed)
  exact ⟨_, reached, interpret_of_halted wellFormed fits nonneg fewer ran sourceHalted,
    reachedFits, same⟩

theorem interpret_of_singleForm_fault {fault : Fault}
    (raised : interpret (encoded program machine).toDraft (singleForm program).toDraft fuel =
      .error (.fault fault)) :
    interpret machine.toDraft program.toDraft fuel = .error (.fault fault) := by
  obtain ⟨count, positions, last, replayed, affordable, faulted⟩ :=
    (interpret_eq_fault_iff (wellFormed_singleForm wellFormed) (fits_encoded fits) nonneg).1 raised
  obtain ⟨indices, reached, ran, emulates⟩ := emulates_of_firings wellFormed fits replayed
  have reachedFits := Program.fits_of_firings wellFormed fits ran
  have fewer := affordable.mono (works_le_of_firings program replayed)
  exact interpret_of_faulted wellFormed fits nonneg fewer ran
    (emulates.faulted wellFormed reachedFits faulted)

end Outcome

/-- Elimination preserves and reflects outcomes. A run that returns does so in the single-state form
with doubled fuel, at the encoding of the same machine and after at most twice as many firings; a
run that overflows does so on the same tape with the same value. What the single-state form returns
or raises with some fuel, the program does with that fuel too. A machine whose state no rule
mentions is no exception. -/
theorem singleForm_same_outcomes (draft : DraftProgram) (program : Program)
    (valid : draft.accept = .ok program) (machineDraft : DraftMachine) (machine : Machine)
    (machineValid : machineDraft.accept program.tapes = .ok machine) :
    ∃ single first, eliminate draft = .ok single ∧ eliminateMachine machineDraft draft = .ok first ∧
      (∀ fuel : Int, 0 ≤ fuel →
        (∀ count final, interpret machineDraft draft fuel = .ok (count, final) →
          ∃ more last, eliminateMachine final.toDraft draft = .ok last ∧
            interpret first.toDraft single.toDraft (encodedFuel fuel) = .ok (more, last) ∧
            count ≤ more ∧ more ≤ 2 * count) ∧
        ∀ tape value,
          interpret machineDraft draft fuel = .error (.fault (.overflow tape value)) →
          interpret first.toDraft single.toDraft (encodedFuel fuel) =
            .error (.fault (.overflow tape value))) ∧
      ∀ fuel : Int, 0 ≤ fuel →
        (∀ more last, interpret first.toDraft single.toDraft fuel = .ok (more, last) →
          ∃ count final, interpret machineDraft draft fuel = .ok (count, final) ∧
            eliminateMachine final.toDraft draft = .ok last) ∧
        ∀ tape value,
          interpret first.toDraft single.toDraft fuel = .error (.fault (.overflow tape value)) →
          interpret machineDraft draft fuel = .error (.fault (.overflow tape value)) := by
  obtain ⟨rfl, wellFormed⟩ := DraftProgram.accept_eq_ok.1 valid
  obtain ⟨rfl, fits⟩ := DraftMachine.accept_eq_ok.1 machineValid
  refine ⟨singleForm program, encoded program machine, eliminate_eq wellFormed,
    eliminateMachine_eq wellFormed fits, ?_, ?_⟩
  · intro fuel nonneg
    constructor
    · intro count final returned
      obtain ⟨indices, reached, -, -⟩ := (interpret_eq_ok_iff wellFormed fits nonneg).1 returned
      obtain ⟨more, same, least, most⟩ :=
        interpret_singleForm_of_ok wellFormed fits nonneg returned
      exact ⟨more, encoded program final,
        eliminateMachine_eq wellFormed (Program.fits_of_firings wellFormed fits reached),
        same, least, most⟩
    · intro tape value raised
      exact interpret_singleForm_of_fault wellFormed fits nonneg raised
  · intro fuel nonneg
    constructor
    · intro more last returned
      obtain ⟨count, final, sourceReturned, finalFits, rfl⟩ :=
        interpret_of_singleForm_ok wellFormed fits nonneg returned
      exact ⟨count, final, sourceReturned, eliminateMachine_eq wellFormed finalFits⟩
    · intro tape value raised
      exact interpret_of_singleForm_fault wellFormed fits nonneg raised

/-- Two self-loop firings and a change of state, with the least fuel that lets the source halt. -/
theorem singleForm_same_outcomes_countdown :
    interpret (Machine.toDraft ⟨0, [2, 0]⟩)
        (Program.toDraft ⟨2, [⟨0, 0, [-1, 1]⟩, ⟨0, 7, [0, 0]⟩]⟩) 4 = .ok (3, ⟨7, [0, 2]⟩) ∧
      ∃ single first more last,
        eliminate (Program.toDraft ⟨2, [⟨0, 0, [-1, 1]⟩, ⟨0, 7, [0, 0]⟩]⟩) = .ok single ∧
        eliminateMachine (Machine.toDraft ⟨0, [2, 0]⟩)
          (Program.toDraft ⟨2, [⟨0, 0, [-1, 1]⟩, ⟨0, 7, [0, 0]⟩]⟩) = .ok first ∧
        eliminateMachine (Machine.toDraft ⟨7, [0, 2]⟩)
          (Program.toDraft ⟨2, [⟨0, 0, [-1, 1]⟩, ⟨0, 7, [0, 0]⟩]⟩) = .ok last ∧
        interpret first.toDraft single.toDraft (encodedFuel 4) = .ok (more, last) ∧
        3 ≤ more ∧ more ≤ 2 * 3 := by
  have returned : interpret (Machine.toDraft ⟨0, [2, 0]⟩)
      (Program.toDraft ⟨2, [⟨0, 0, [-1, 1]⟩, ⟨0, 7, [0, 0]⟩]⟩) 4 = .ok (3, ⟨7, [0, 2]⟩) := by
    decide +kernel
  obtain ⟨single, first, eliminated, encodedFirst, preserved, -⟩ := singleForm_same_outcomes
    (Program.toDraft ⟨2, [⟨0, 0, [-1, 1]⟩, ⟨0, 7, [0, 0]⟩]⟩)
    ⟨2, [⟨0, 0, [-1, 1]⟩, ⟨0, 7, [0, 0]⟩]⟩ rfl (Machine.toDraft ⟨0, [2, 0]⟩) ⟨0, [2, 0]⟩ rfl
  obtain ⟨more, last, encodedLast, same, bounds⟩ :=
    (preserved 4 (by decide)).1 3 ⟨7, [0, 2]⟩ returned
  exact ⟨returned, single, first, more, last, eliminated, encodedFirst, encodedLast, same, bounds⟩

end CounterMachine.Elimination
