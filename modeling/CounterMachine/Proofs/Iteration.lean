import CounterMachine.Proofs.Budget
import CounterMachine.Proofs.Replay
import Mathlib.Algebra.Order.Ring.Int
import Mathlib.Logic.Function.Iterate

/-!
# Repeated elimination

Elimination applies to its own results, any number of times. What the first round does depends on
the states and the self-loops of the program. After it there is one state, and every rule is a
self-loop: so each further round adds two tapes, doubles the rules and doubles the firings of every
run.
-/

namespace CounterMachine.Elimination

variable {program : Program} {rule : Rule} {machine final : Machine} {fuel : Int} {count : Nat}
  {positions : List Nat}

/-- The machine from which a program starts after several rounds of elimination. Each round encodes
the machine of the round before for the program of the round before. -/
def eliminateMachineTimes (machine : DraftMachine) (program : DraftProgram) :
    Nat → Except Error Machine
  | 0 => .ok machine.toMachine
  | rounds + 1 => do
      let previous ← eliminateMachineTimes machine program rounds
      let source ← eliminateTimes program rounds
      eliminateMachine previous.toDraft source.toDraft

theorem tapes_singleForm (program : Program) :
    (singleForm program).tapes = program.tapes + 2 * program.states.length := by
  rw [singleForm, tapeCount, length_numbering]

theorem length_returns (rules : List Rule) :
    (returns rules).length = rules.length + rules.countP Rule.isSelfLoop := by
  induction rules with
  | nil => rfl
  | cons rule rest ih =>
      rw [returns_cons, List.length_cons, List.length_append, ih, List.length_cons,
        List.countP_cons]
      split
      next =>
        rw [List.length_singleton]
        omega
      next =>
        rw [List.length_nil]
        omega

theorem length_rules_singleForm (program : Program) :
    (singleForm program).rules.length =
      program.rules.length + program.rules.countP Rule.isSelfLoop := by
  rw [singleForm, length_flatMap_emitted, length_returns]

/-- There are rules, and all of them stay in the only state. -/
structure OneState (program : Program) : Prop where
  rules_ne_nil : program.rules ≠ []
  source_eq : ∀ rule ∈ program.rules, rule.source = onlyState
  target_eq : ∀ rule ∈ program.rules, rule.target = onlyState

theorem mem_singleForm (member : rule ∈ (singleForm program).rules) :
    ∃ adjustments, rule = onlyRule adjustments := by
  rcases List.mem_flatMap.1 member with ⟨origin, -, isEmitted⟩
  rcases List.mem_cons.1 isEmitted with rfl | isReturn
  · exact ⟨_, rfl⟩
  · split at isReturn
    next =>
      rw [List.mem_singleton.1 isReturn]
      exact ⟨_, rfl⟩
    next => cases isReturn

theorem oneState_singleForm (present : program.rules ≠ []) : OneState (singleForm program) where
  rules_ne_nil := by
    rw [← List.length_pos_iff] at present ⊢
    rw [length_rules_singleForm]
    omega
  source_eq := by
    intro rule member
    rcases mem_singleForm member with ⟨adjustments, rfl⟩
    rfl
  target_eq := by
    intro rule member
    rcases mem_singleForm member with ⟨adjustments, rfl⟩
    rfl

namespace OneState

theorem isSelfLoop (oneState : OneState program) (member : rule ∈ program.rules) :
    rule.isSelfLoop = true := by
  rw [Rule.isSelfLoop_eq_true, oneState.source_eq rule member, oneState.target_eq rule member]

theorem countP_isSelfLoop (oneState : OneState program) :
    program.rules.countP Rule.isSelfLoop = program.rules.length := by
  rw [List.countP_eq_length]
  intro rule member
  exact oneState.isSelfLoop member

theorem states_eq (oneState : OneState program) : program.states = [onlyState] := by
  have only : ∀ state ∈ program.states, state = onlyState := by
    intro state member
    rcases Program.mem_states.1 member with ⟨rule, inside, rfl | rfl⟩
    · exact oneState.source_eq rule inside
    · exact oneState.target_eq rule inside
  rcases List.exists_mem_of_ne_nil _ oneState.rules_ne_nil with ⟨rule, member⟩
  have mentioned := Program.source_mem_states member
  have distinct := program.nodup_states
  rw [List.eq_replicate_of_mem only, List.nodup_replicate] at distinct
  have nonempty := List.length_pos_of_mem mentioned
  rw [List.eq_replicate_of_mem only, show program.states.length = 1 by omega]
  rfl

/-- Every firing is that of a self-loop. -/
theorem countP_loopsAt (oneState : OneState program) (wellFormed : program.WellFormed)
    (fits : machine.Fits program.tapes)
    (reached : program.firings machine count = some (positions, final)) :
    positions.countP (loopsAt program) = count := by
  apply Program.firings_preserves
    (fun count positions _ => positions.countP (loopsAt program) = count) rfl ?_ reached
  intro count positions middle index rule after before fired loops
  have middleFits := Program.fits_of_firings wellFormed fits before
  rcases Program.scan_fired wellFormed middleFits fired with ⟨earlier, rest, selects, rfl, -, -⟩
  have loop : loopsAt program earlier.length = true := by
    rw [loopsAt, selects.getElem?, Option.any_some, oneState.isSelfLoop selects.mem]
  rw [List.countP_append, loops, List.countP_singleton, if_pos loop]

end OneState

/-! ## Several rounds -/

theorem wellFormed_rounds (wellFormed : program.WellFormed) (rounds : Nat) :
    (singleForm^[rounds] program).WellFormed :=
  Function.Iterate.rec Program.WellFormed wellFormed (fun _ => wellFormed_singleForm) rounds

theorem oneState_rounds (oneState : OneState program) (rounds : Nat) :
    OneState (singleForm^[rounds] program) :=
  Function.Iterate.rec OneState oneState
    (fun _ previous => oneState_singleForm previous.rules_ne_nil) rounds

theorem eliminateTimes_eq (wellFormed : program.WellFormed) (rounds : Nat) :
    eliminateTimes program.toDraft rounds = .ok (singleForm^[rounds] program) := by
  induction rounds generalizing program with
  | zero => rw [eliminateTimes, Program.toProgram_toDraft, Function.iterate_zero_apply]
  | succ rounds ih =>
      rw [eliminateTimes, eliminate_eq wellFormed, Function.iterate_succ_apply]
      exact ih (wellFormed_singleForm wellFormed)

theorem tapes_rounds (oneState : OneState program) (rounds : Nat) :
    (singleForm^[rounds] program).tapes = program.tapes + 2 * rounds := by
  induction rounds with
  | zero => simp
  | succ rounds ih =>
      rw [Function.iterate_succ_apply', tapes_singleForm, ih,
        (oneState_rounds oneState rounds).states_eq, List.length_singleton]
      omega

theorem length_rules_rounds (oneState : OneState program) (rounds : Nat) :
    (singleForm^[rounds] program).rules.length = program.rules.length * 2 ^ rounds := by
  induction rounds with
  | zero => simp
  | succ rounds ih =>
      rw [Function.iterate_succ_apply', length_rules_singleForm,
        (oneState_rounds oneState rounds).countP_isSelfLoop, ih, Nat.pow_succ, ← Nat.mul_assoc]
      omega

/-- The encoding of a machine after several rounds. -/
def encodedRounds (program : Program) (machine : Machine) : Nat → Machine
  | 0 => machine
  | rounds + 1 => encoded (singleForm^[rounds] program) (encodedRounds program machine rounds)

theorem fits_rounds (fits : machine.Fits program.tapes) (rounds : Nat) :
    (encodedRounds program machine rounds).Fits (singleForm^[rounds] program).tapes := by
  induction rounds with
  | zero => exact fits
  | succ rounds ih =>
      rw [Function.iterate_succ_apply']
      exact fits_encoded ih

theorem eliminateMachineTimes_eq (wellFormed : program.WellFormed)
    (fits : machine.Fits program.tapes) (rounds : Nat) :
    eliminateMachineTimes machine.toDraft program.toDraft rounds =
      .ok (encodedRounds program machine rounds) := by
  induction rounds with
  | zero => rw [eliminateMachineTimes, Machine.toMachine_toDraft, encodedRounds]
  | succ rounds ih =>
      have next := eliminateMachine_eq (wellFormed_rounds wellFormed rounds)
        (fits_rounds fits rounds)
      simp only [eliminateMachineTimes, ih, eliminateTimes_eq wellFormed rounds, bind, Except.bind,
        next, encodedRounds]

/-- The extra tapes come after the counters of the machine. -/
theorem counters_prefix_rounds (program : Program) (machine : Machine) (rounds : Nat) :
    machine.counters <+: (encodedRounds program machine rounds).counters := by
  induction rounds with
  | zero => exact List.prefix_rfl
  | succ rounds ih => exact ih.trans (List.prefix_append _ _)

theorem take_counters_rounds (fits : machine.Fits program.tapes) (rounds : Nat) :
    (encodedRounds program machine rounds).counters.take program.tapes.toNat =
      machine.counters := by
  have width : machine.counters.length = program.tapes.toNat := by
    have := fits.width_eq
    unfold Machine.width at this
    omega
  rw [← width]
  exact (List.prefix_iff_eq_take.1 (counters_prefix_rounds program machine rounds)).symm

/-- The run from a machine halts after that many firings. -/
structure Halts (program : Program) (start : Machine) (count : Nat) (final : Machine) : Prop where
  reached : ∃ positions, program.firings start count = some (positions, final)
  halted : program.scan final = .halted

section Halts

variable (wellFormed : program.WellFormed) (fits : machine.Fits program.tapes)
include wellFormed fits

theorem halts_encoded (reached : program.firings machine count = some (positions, final))
    (halted : program.scan final = .halted) :
    Halts (singleForm program) (encoded program machine)
      (count + positions.countP (loopsAt program)) (encoded program final) where
  reached := by
    rcases firings_encoded wellFormed fits reached with ⟨blocks, replays, replayed⟩
    rw [length_flatten_of_replays replays, Program.length_of_firings reached] at replayed
    exact ⟨_, replayed⟩
  halted :=
    scan_encoded_of_halted wellFormed (Program.fits_of_firings wellFormed fits reached) halted

/-- In a single state a round doubles the firings. -/
theorem Halts.encoded (halts : Halts program machine count final) (oneState : OneState program) :
    Halts (singleForm program) (encoded program machine) (2 * count) (encoded program final) := by
  rcases halts.reached with ⟨positions, reached⟩
  have more := halts_encoded wellFormed fits reached halts.halted
  rw [oneState.countP_loopsAt wellFormed fits reached] at more
  rwa [Nat.two_mul]

/-- After the first round every round doubles the firings. -/
theorem halts_rounds (present : program.rules ≠ [])
    (reached : program.firings machine count = some (positions, final))
    (halted : program.scan final = .halted) (rounds : Nat) :
    Halts (singleForm^[rounds + 1] program) (encodedRounds program machine (rounds + 1))
      (2 ^ rounds * (count + positions.countP (loopsAt program)))
      (encodedRounds program final (rounds + 1)) := by
  -- only the first round depends on which of the firings are self-loops
  induction rounds with
  | zero =>
      rw [Nat.pow_zero, Nat.one_mul]
      exact halts_encoded wellFormed fits reached halted
  | succ rounds ih =>
      have oneState : OneState (singleForm^[rounds + 1] program) := by
        rw [Function.iterate_succ_apply]
        exact oneState_rounds (oneState_singleForm present) rounds
      have doubled := ih.encoded (wellFormed_rounds wellFormed (rounds + 1))
        (fits_rounds fits (rounds + 1)) oneState
      rw [Function.iterate_succ_apply', Nat.pow_succ, Nat.mul_comm _ 2, Nat.mul_assoc]
      exact doubled

end Halts

/-- Doubling the fuel in every round suffices. -/
theorem affordable_rounds {loops : Nat} (affordable : Affordable fuel count)
    (fewer : loops ≤ count) (rounds : Nat) :
    Affordable (2 ^ (rounds + 1) * fuel) (2 ^ rounds * (count + loops)) := by
  cases affordable with
  | inl none =>
      left
      rw [show count + loops = 0 by omega, Nat.mul_zero]
  | inr below =>
      right
      have twice : ((count + loops : Nat) : Int) < 2 * fuel := by omega
      have positive : (0 : Int) < 2 ^ rounds := Int.pow_pos (by decide)
      have scaled := Int.mul_lt_mul_of_pos_left twice positive
      rw [pow_succ, mul_assoc]
      push_cast at scaled ⊢
      exact scaled

/-- A run that halts within its budget halts after every number of rounds. -/
theorem interpret_rounds (wellFormed : program.WellFormed) (fits : machine.Fits program.tapes)
    (nonneg : 0 ≤ fuel) (present : program.rules ≠ []) (affordable : Affordable fuel count)
    (reached : program.firings machine count = some (positions, final))
    (halted : program.scan final = .halted) (rounds : Nat) :
    interpret (encodedRounds program machine (rounds + 1)).toDraft
        (singleForm^[rounds + 1] program).toDraft (2 ^ (rounds + 1) * fuel) =
      .ok (2 ^ rounds * (count + positions.countP (loopsAt program)),
        encodedRounds program final (rounds + 1)) := by
  have halts := halts_rounds wellFormed fits present reached halted rounds
  have fewer : positions.countP (loopsAt program) ≤ count := by
    rw [← Program.length_of_firings reached]
    exact List.countP_le_length
  have enough : 0 ≤ 2 ^ (rounds + 1) * fuel :=
    Int.mul_nonneg (Int.pow_nonneg (by decide)) nonneg
  rcases halts.reached with ⟨replayed, reachedAgain⟩
  exact interpret_of_halted (wellFormed_rounds wellFormed _) (fits_rounds fits _) enough
    (affordable_rounds affordable fewer rounds) reachedAgain halts.halted

/-- Elimination can be repeated any number of times on a valid program that has rules, and the
result is valid again. The first round gives two tapes to every state and a second rule to every
self-loop; each of the `rounds` after it gives two tapes and doubles the rules. A run that returns
does so after every number of rounds, with the fuel doubled in each: its firings and the firings of
its self-loops once more, doubled in every round but the first, lead to the same counters. -/
theorem eliminateTimes_keeps_runs (draft : DraftProgram) (program : Program)
    (valid : draft.accept = .ok program) (present : program.rules ≠ []) :
    (∀ rounds : Nat, ∃ result, eliminateTimes draft (rounds + 1) = .ok result ∧
      result.toDraft.accept = .ok result ∧
      result.tapes = program.tapes + 2 * program.states.length + 2 * rounds ∧
      result.rules.length =
        (program.rules.length + program.rules.countP Rule.isSelfLoop) * 2 ^ rounds ∧
      result.states = [0]) ∧
    ∀ machineDraft fuel count final, interpret machineDraft draft fuel = .ok (count, final) →
      ∃ machine positions, machineDraft.accept program.tapes = .ok machine ∧
        program.firings machine count = some (positions, final) ∧
        ∀ rounds : Nat, ∃ result first last,
          eliminateTimes draft (rounds + 1) = .ok result ∧
          eliminateMachineTimes machineDraft draft (rounds + 1) = .ok first ∧
          interpret first.toDraft result.toDraft (2 ^ (rounds + 1) * fuel) =
            .ok (2 ^ rounds * (count + positions.countP (loopsAt program)), last) ∧
          last.counters.take program.tapes.toNat = final.counters := by
  rcases DraftProgram.accept_eq_ok.1 valid with ⟨rfl, wellFormed⟩
  constructor
  · intro rounds
    have oneState := oneState_singleForm present
    refine ⟨singleForm^[rounds + 1] program, eliminateTimes_eq wellFormed (rounds + 1),
      DraftProgram.accept_eq_ok.2 ⟨rfl, wellFormed_rounds wellFormed (rounds + 1)⟩, ?_⟩
    rw [Function.iterate_succ_apply, tapes_rounds oneState, tapes_singleForm,
      length_rules_rounds oneState, length_rules_singleForm,
      (oneState_rounds oneState rounds).states_eq]
    exact ⟨rfl, rfl, rfl⟩
  · intro machineDraft fuel count final returned
    rcases gate_of_interpret returned with ⟨nonneg, machine, rfl, fits⟩
    rcases (interpret_eq_ok_iff wellFormed fits nonneg).1 returned with
      ⟨positions, reached, affordable, halted⟩
    refine ⟨machine, positions, DraftMachine.accept_eq_ok.2 ⟨rfl, fits⟩, reached, ?_⟩
    intro rounds
    exact ⟨_, _, _, eliminateTimes_eq wellFormed _, eliminateMachineTimes_eq wellFormed fits _,
      interpret_rounds wellFormed fits nonneg present affordable reached halted rounds,
      take_counters_rounds (Program.fits_of_firings wellFormed fits reached) (rounds + 1)⟩

/-- Two self-loop firings and a change of state, after two rounds. -/
theorem eliminateTimes_keeps_countdown :
    (∃ result, eliminateTimes (Program.toDraft ⟨1, [⟨0, 0, [-1]⟩, ⟨0, 7, [0]⟩]⟩) 2 = .ok result ∧
      result.tapes = 7 ∧ result.rules.length = 6 ∧ result.states = [0]) ∧
    ∃ result first last,
      eliminateTimes (Program.toDraft ⟨1, [⟨0, 0, [-1]⟩, ⟨0, 7, [0]⟩]⟩) 2 = .ok result ∧
      eliminateMachineTimes (Machine.toDraft ⟨0, [2]⟩)
        (Program.toDraft ⟨1, [⟨0, 0, [-1]⟩, ⟨0, 7, [0]⟩]⟩) 2 = .ok first ∧
      interpret first.toDraft result.toDraft 16 = .ok (10, last) ∧ last.counters.take 1 = [0] := by
  have returned : interpret (Machine.toDraft ⟨0, [2]⟩)
      (Program.toDraft ⟨1, [⟨0, 0, [-1]⟩, ⟨0, 7, [0]⟩]⟩) 4 = .ok (3, ⟨7, [0]⟩) := by
    decide +kernel
  have repeated := eliminateTimes_keeps_runs (Program.toDraft ⟨1, [⟨0, 0, [-1]⟩, ⟨0, 7, [0]⟩]⟩)
    ⟨1, [⟨0, 0, [-1]⟩, ⟨0, 7, [0]⟩]⟩ rfl (by simp)
  constructor
  · rcases repeated.1 1 with ⟨result, eliminated, -, tapes, rules, states⟩
    exact ⟨result, eliminated, tapes, rules, states⟩
  · rcases repeated.2 _ _ _ _ returned with ⟨machine, positions, accepted, reached, rounds⟩
    cases accepted
    cases reached
    exact rounds 1

end CounterMachine.Elimination
