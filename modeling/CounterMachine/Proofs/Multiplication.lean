import CounterMachine.Proofs.Computation
import CounterMachine.Proofs.Repetition
import Mathlib.Tactic.Ring

/-!
# Multiplication

Both multipliers add the first factor to tape 0 as often as the second factor says. A round drains
the first factor onto tape 0 and a scratch tape and restores it from there. Which rule ends each of
these loops is decided by the order of the rules alone.

Every stretch of a round is counted, so the number of firings is known exactly: it is one less than
the fuel that is given. If the product exceeds `maxValue`, the round in which the sum passes the
limit breaks off with an overflow of tape 0, before the fuel is spent.
-/

namespace CounterMachine.Library

open Program (trajectory_once trajectory_repeated trajectory_trans)

variable {acc x units left rest y rounds count : Nat}

/-! ## The program with four rules -/

/-- State 0 moves units of the first factor onto tape 0 and the scratch tape. -/
theorem multiplier_drains (sum : ((acc + units : Nat) : Int) ≤ maxValue)
    (factor : ((left + units : Nat) : Int) ≤ maxValue) (others : (rest : Int) ≤ maxValue) :
    multiplierProgram.trajectory ⟨0, [acc, (left + units : Nat), 0, rest]⟩ units =
      some ⟨0, [(acc + units : Nat), left, units, rest]⟩ := by
  have drained := @trajectory_repeated multiplierProgram ⟨0, 0, [1, -1, 1, 0]⟩ [] _
    [acc, (left + units : Nat), 0, rest] units rfl rfl rfl
    (by simp only [Rule.supplies_cons, Rule.supplies_nil, and_true]; omega)
    (by simp only [Rule.contained_cons, Rule.contained_nil, and_true]; omega) (by simp)
  simpa [Rule.repeated, Int.add_neg_cancel_right] using drained

/-- State 0 gives way to state 1 once the first factor has been drained. -/
theorem multiplier_turns (sum : (acc : Int) ≤ maxValue) (factor : (x : Int) ≤ maxValue)
    (others : (rest : Int) ≤ maxValue) :
    multiplierProgram.trajectory ⟨0, [acc, 0, x, rest]⟩ 1 = some ⟨1, [acc, 0, x, rest]⟩ := by
  have turned := @trajectory_once multiplierProgram ⟨0, 1, [0, 0, 0, 0]⟩
    [⟨0, 0, [1, -1, 1, 0]⟩] _ [acc, 0, x, rest] rfl rfl
    (by simp only [Rule.supplies_cons, Rule.supplies_nil, and_true]; omega)
    (by simp [Rule.applies_iff, Rule.guardsHold_cons])
    (by simp only [Rule.contained_cons, Rule.contained_nil, and_true]; omega)
  simpa [Rule.repeated] using turned

/-- State 1 restores the first factor from the scratch tape. -/
theorem multiplier_restores (sum : (acc : Int) ≤ maxValue) (factor : (x : Int) ≤ maxValue)
    (others : (rest : Int) ≤ maxValue) :
    multiplierProgram.trajectory ⟨1, [acc, 0, x, rest]⟩ x = some ⟨1, [acc, x, 0, rest]⟩ := by
  have restored := @trajectory_repeated multiplierProgram ⟨1, 1, [0, 1, -1, 0]⟩
    [⟨0, 0, [1, -1, 1, 0]⟩, ⟨0, 1, [0, 0, 0, 0]⟩] _ [acc, 0, x, rest] x rfl rfl rfl
    (by simp only [Rule.supplies_cons, Rule.supplies_nil, and_true]; omega)
    (by simp only [Rule.contained_cons, Rule.contained_nil, and_true]; omega)
    (by simp [Rule.applies_iff])
  simpa [Rule.repeated, Int.add_right_neg] using restored

/-- State 1 takes one unit of the second factor and gives way to state 0. -/
theorem multiplier_returns (sum : (acc : Int) ≤ maxValue) (factor : (x : Int) ≤ maxValue)
    (others : ((rest + 1 : Nat) : Int) ≤ maxValue) :
    multiplierProgram.trajectory ⟨1, [acc, x, 0, (rest + 1 : Nat)]⟩ 1 =
      some ⟨0, [acc, x, 0, rest]⟩ := by
  have returned := @trajectory_once multiplierProgram ⟨1, 0, [0, 0, 0, -1]⟩
    [⟨0, 0, [1, -1, 1, 0]⟩, ⟨0, 1, [0, 0, 0, 0]⟩, ⟨1, 1, [0, 1, -1, 0]⟩] _
    [acc, x, 0, (rest + 1 : Nat)] rfl rfl
    (by simp only [Rule.supplies_cons, Rule.supplies_nil, and_true]; omega)
    (by simp [Rule.applies_iff, Rule.guardsHold_cons])
    (by simp only [Rule.contained_cons, Rule.contained_nil, and_true]; omega)
  simpa [Rule.repeated, Int.add_neg_cancel_right] using returned

/-- State 1 halts once both the scratch tape and the second factor are used up. -/
theorem multiplier_halts : multiplierProgram.next ⟨1, [acc, x, 0, 0]⟩ = .halt := by
  have idle := @Program.firstApplicable?_of_idle multiplierProgram ⟨1, [acc, x, 0, 0]⟩
    (by simp [multiplierProgram, Rule.applies_iff, Rule.guardsHold_cons])
  rw [Program.next, idle]

/-- One addition of the first factor. -/
theorem multiplier_adds (sum : ((acc + x : Nat) : Int) ≤ maxValue) (factor : (x : Int) ≤ maxValue)
    (others : (rest : Int) ≤ maxValue) :
    multiplierProgram.trajectory ⟨0, [acc, x, 0, rest]⟩ (2 * x + 1) =
      some ⟨1, [(acc + x : Nat), x, 0, rest]⟩ := by
  have drained := @multiplier_drains acc x 0 rest sum (by simpa using factor) others
  rw [Nat.zero_add] at drained
  have turned := trajectory_trans drained (multiplier_turns sum factor others)
  have restored := trajectory_trans turned (multiplier_restores sum factor others)
  rwa [show x + 1 + x = 2 * x + 1 by omega] at restored

/-- The addition that passes the limit breaks off while the first factor is drained. -/
theorem multiplier_breaks (sum : (acc : Int) ≤ maxValue)
    (passes : maxValue < ((acc + x : Nat) : Int)) (factor : (x : Int) ≤ maxValue)
    (others : (rest : Int) ≤ maxValue) :
    ∃ count < 2 * x + 2, ∃ last,
      multiplierProgram.trajectory ⟨0, [acc, x, 0, rest]⟩ count = some last ∧
        multiplierProgram.next last = .overflow 0 (maxValue + 1) := by
  -- what still fits on tape 0, and what is then left of the first factor
  obtain ⟨units, full⟩ : ∃ units : Nat, ((acc + units : Nat) : Int) = maxValue :=
    ⟨(maxValue - acc).toNat, by omega⟩
  obtain ⟨left, rfl⟩ : ∃ left, x = left + 1 + units := ⟨x - units - 1, by omega⟩
  have drained := @multiplier_drains acc units (left + 1) rest (by omega) factor others
  refine ⟨units, by omega, _, drained, ?_⟩
  rw [full]
  exact @Program.next_of_overflow_first multiplierProgram ⟨0, 0, [1, -1, 1, 0]⟩ [] _
    [maxValue, (left + 1 : Nat), units, rest] rfl rfl
    (by simp only [Rule.supplies_cons, Rule.supplies_nil, and_true]; omega) (by simp) _ _ rfl
    (by omega)

/-- The machine at the beginning of a round, when there are `rounds` of them and one addition. -/
def multiplierRound (x rounds number : Nat) : Machine :=
  ⟨0, [(number * x : Nat), x, 0, (rounds - number : Nat)]⟩

theorem multiplierRound_zero : multiplierRound x rounds 0 = ⟨0, [0, x, 0, rounds]⟩ := by
  simp [multiplierRound]

theorem multiplierRound_self :
    multiplierRound x rounds rounds = ⟨0, [(rounds * x : Nat), x, 0, 0]⟩ := by
  simp [multiplierRound]

/-- A round adds the first factor and takes one unit of the second. -/
theorem multiplier_round {number : Nat} (below : number < rounds)
    (sum : (((number + 1) * x : Nat) : Int) ≤ maxValue) (factor : (x : Int) ≤ maxValue)
    (others : (rounds : Int) ≤ maxValue) :
    multiplierProgram.trajectory (multiplierRound x rounds number) (2 * x + 2) =
      some (multiplierRound x rounds (number + 1)) := by
  obtain ⟨rest, rfl⟩ : ∃ rest, rounds = number + 1 + rest := ⟨rounds - number - 1, by omega⟩
  have before : number + 1 + rest - number = rest + 1 := by omega
  have after : number + 1 + rest - (number + 1) = rest := by omega
  rw [Nat.add_one_mul] at sum
  have added := @multiplier_adds (number * x) x (rest + 1) sum factor (by omega)
  have round := trajectory_trans added (multiplier_returns sum factor (by omega))
  rw [multiplierRound, multiplierRound, before, after, Nat.add_one_mul number]
  exact round

theorem multiplier_multiplies (product : ((x * (rounds + 1) : Nat) : Int) ≤ maxValue)
    (factor : (x : Int) ≤ maxValue) (others : (rounds : Int) ≤ maxValue) :
    multiplierProgram.trajectory ⟨0, [0, x, 0, rounds]⟩ (rounds * (2 * x + 2) + (2 * x + 1)) =
      some ⟨1, [(x * (rounds + 1) : Nat), x, 0, 0]⟩ := by
  rw [Nat.mul_comm] at product
  have complete := @Program.trajectory_rounds multiplierProgram (multiplierRound x rounds)
    (2 * x + 2) rounds (by
      intro number below
      have fewer : (number + 1) * x ≤ (rounds + 1) * x := Nat.mul_le_mul_right x (by omega)
      exact multiplier_round below (by omega) factor others)
  have last := @multiplier_adds (rounds * x) x 0 (by rwa [← Nat.add_one_mul]) factor (by decide)
  rw [multiplierRound_zero, multiplierRound_self] at complete
  rw [Nat.mul_comm x (rounds + 1), Nat.add_one_mul rounds]
  exact trajectory_trans complete last

theorem multiplier_overflows (product : maxValue < ((x * (rounds + 1) : Nat) : Int))
    (factor : (x : Int) ≤ maxValue) (others : (rounds : Int) ≤ maxValue) :
    ∃ count < (rounds + 1) * (2 * x + 2), ∃ last,
      multiplierProgram.trajectory ⟨0, [0, x, 0, rounds]⟩ count = some last ∧
        multiplierProgram.next last = .overflow 0 (maxValue + 1) := by
  have broken := @Program.exists_overflow_of_rounds multiplierProgram (multiplierRound x rounds)
    (2 * x + 2) x (rounds + 1) product
    (fun number below sum => multiplier_round (by omega) sum factor others)
    (by
      intro number below sum passes
      rw [Nat.add_one_mul] at passes
      exact multiplier_breaks sum passes factor (by omega))
  rwa [multiplierRound_zero] at broken

theorem wellFormed_multiplierProgram : multiplierProgram.WellFormed := by
  have accepted : multiplierProgram.toDraft.accept = .ok multiplierProgram := rfl
  exact (DraftProgram.accept_eq_ok.1 accepted).2

/-- The start of the program fits exactly if both factors do. -/
theorem fits_multiplier {x y : Int} :
    Machine.Fits multiplierProgram.tapes ⟨0, multiplierCounters x y⟩ ↔
      (0 ≤ x ∧ x ≤ maxValue) ∧ 0 ≤ y - 1 ∧ y - 1 ≤ maxValue := by
  constructor
  · intro fits
    have bounded := fits.counters_bounded
    simp only [multiplierCounters, List.forall_mem_cons] at bounded
    exact ⟨bounded.2.1, bounded.2.2.2.1⟩
  · rintro ⟨first, second⟩
    refine ⟨rfl, Int.le_refl 0, ?_⟩
    simp only [multiplierCounters, List.forall_mem_cons]
    exact ⟨by decide, first, by decide, second, by simp⟩

theorem multiplierCounters_succ :
    multiplierCounters x ((rounds : Int) + 1) = [0, (x : Int), 0, (rounds : Int)] := by
  rw [multiplierCounters, Int.add_sub_cancel]

theorem multiply_eq_compute {x y : Int} (xNonneg : 0 ≤ x) (yPositive : 1 ≤ y) :
    multiply x y = compute multiplierProgram (multiplierCounters x y) (2 * (x + 1) * y) := by
  simp [multiply, checkNonnegative, Int.not_lt.2 xNonneg, Int.not_lt.2 yPositive, bind, Except.bind]

theorem multiplierFuel_nonneg {x y : Int} (xNonneg : 0 ≤ x) (yPositive : 1 ≤ y) :
    0 ≤ 2 * (x + 1) * y :=
  Int.mul_nonneg (Int.mul_nonneg (by decide) (by omega)) (by omega)

section MultiplierRuns

variable {x y : Int} (xNonneg : 0 ≤ x) (xBound : x ≤ maxValue) (yPositive : 1 ≤ y)
  (yBound : y ≤ maxValue + 1)
include xNonneg xBound yPositive yBound

theorem interpret_multiplier_of_le (product : x * y ≤ maxValue) :
    ∃ count : Nat, (count : Int) = 2 * (x + 1) * y - 1 ∧
      interpret (Machine.toDraft ⟨0, multiplierCounters x y⟩) multiplierProgram.toDraft
        (2 * (x + 1) * y) = .ok (count, ⟨1, [x * y, x, 0, 0]⟩) := by
  have fits := (@fits_multiplier x y).2 ⟨⟨xNonneg, xBound⟩, by omega, by omega⟩
  have nonneg := multiplierFuel_nonneg xNonneg yPositive
  obtain ⟨x, rfl⟩ := Int.eq_ofNat_of_zero_le xNonneg
  obtain ⟨rounds, rfl⟩ : ∃ rounds : Nat, y = rounds + 1 := ⟨(y - 1).toNat, by omega⟩
  have reached := @multiplier_multiplies x rounds (by simpa using product) xBound (by omega)
  have count_eq : ((rounds * (2 * x + 2) + (2 * x + 1) : Nat) : Int) =
      2 * ((x : Int) + 1) * (rounds + 1) - 1 := by
    push_cast
    ring
  refine ⟨_, count_eq, interpret_of_concludes wellFormed_multiplierProgram fits nonneg ?_⟩
  rw [multiplierCounters_succ]
  push_cast at reached
  exact .halts reached multiplier_halts (.inr (by omega))

theorem interpret_multiplier_of_lt (product : maxValue < x * y) :
    interpret (Machine.toDraft ⟨0, multiplierCounters x y⟩) multiplierProgram.toDraft
      (2 * (x + 1) * y) = .error (.fault (.overflow 0 (maxValue + 1))) := by
  have fits := (@fits_multiplier x y).2 ⟨⟨xNonneg, xBound⟩, by omega, by omega⟩
  have nonneg := multiplierFuel_nonneg xNonneg yPositive
  obtain ⟨x, rfl⟩ := Int.eq_ofNat_of_zero_le xNonneg
  obtain ⟨rounds, rfl⟩ : ∃ rounds : Nat, y = rounds + 1 := ⟨(y - 1).toNat, by omega⟩
  obtain ⟨count, below, last, reached, overflowed⟩ :=
    @multiplier_overflows x rounds (by simpa using product) xBound (by omega)
  have bound : (((rounds + 1) * (2 * x + 2) : Nat) : Int) = 2 * ((x : Int) + 1) * (rounds + 1) := by
    push_cast
    ring
  refine interpret_of_concludes wellFormed_multiplierProgram fits nonneg ?_
  rw [multiplierCounters_succ]
  exact .overflows reached overflowed (.inr (by omega))

theorem multiply_of_le (product : x * y ≤ maxValue) : multiply x y = .ok (x * y) := by
  obtain ⟨count, -, returned⟩ :=
    interpret_multiplier_of_le xNonneg xBound yPositive yBound product
  rw [multiply_eq_compute xNonneg yPositive, compute_of_ok returned]
  rfl

theorem multiply_of_lt (product : maxValue < x * y) :
    multiply x y = .error (.run (.fault (.overflow 0 (maxValue + 1)))) := by
  rw [multiply_eq_compute xNonneg yPositive]
  exact compute_of_error (interpret_multiplier_of_lt xNonneg xBound yPositive yBound product)

end MultiplierRuns

theorem multiply_ne_outOfFuel {x y fuel : Int} {steps : Nat} :
    multiply x y ≠ .error (.run (.outOfFuel fuel steps)) := by
  intro exhausted
  by_cases xNonneg : 0 ≤ x
  · by_cases yPositive : 1 ≤ y
    · rw [multiply_eq_compute xNonneg yPositive] at exhausted
      refine compute_ne_outOfFuel wellFormed_multiplierProgram
        (multiplierFuel_nonneg xNonneg yPositive) ?_ exhausted
      intro fits
      obtain ⟨⟨-, xBound⟩, -, restBound⟩ := fits_multiplier.1 fits
      rw [← multiply_eq_compute xNonneg yPositive]
      by_cases product : x * y ≤ maxValue
      · exact .inl ⟨_, multiply_of_le xNonneg xBound yPositive (by omega) product⟩
      · exact .inr ⟨_, multiply_of_lt xNonneg xBound yPositive (by omega) (by omega)⟩
    · simp [multiply, checkNonnegative, Int.not_lt.2 xNonneg, Int.not_le.1 yPositive, bind,
        Except.bind, throw, throwThe, MonadExceptOf.throw] at exhausted
  · simp [multiply, checkNonnegative, Int.not_le.1 xNonneg, bind, Except.bind] at exhausted

/-- The four-rule program multiplies all numbers that fit on its tapes. It returns the product,
which leaves one unit of its fuel, or overflows tape 0 if the product is too large. On no numbers at
all does it run out of fuel. -/
theorem multiply_exact :
    (∀ x y : Int, 0 ≤ x → x ≤ maxValue → 1 ≤ y → y ≤ maxValue + 1 →
      (x * y ≤ maxValue → multiply x y = .ok (x * y) ∧
        ∃ count : Nat, (count : Int) = 2 * (x + 1) * y - 1 ∧
          interpret (Machine.toDraft ⟨0, [0, x, 0, y - 1]⟩) multiplierProgram.toDraft
            (2 * (x + 1) * y) = .ok (count, ⟨1, [x * y, x, 0, 0]⟩)) ∧
      (maxValue < x * y →
        multiply x y = .error (.run (.fault (.overflow 0 (maxValue + 1)))))) ∧
    ∀ x y fuel steps, multiply x y ≠ .error (.run (.outOfFuel fuel steps)) := by
  refine ⟨?_, fun _ _ _ _ => multiply_ne_outOfFuel⟩
  intro x y xNonneg xBound yPositive yBound
  constructor
  · intro product
    exact ⟨multiply_of_le xNonneg xBound yPositive yBound product,
      interpret_multiplier_of_le xNonneg xBound yPositive yBound product⟩
  · exact multiply_of_lt xNonneg xBound yPositive yBound

/-- The largest square that fits, the next one, and the largest second factor. -/
theorem multiply_exact_at_limits :
    multiply 46340 46340 = .ok 2147395600 ∧
    (∃ count : Nat, (count : Int) = 4294883879 ∧
      interpret (Machine.toDraft ⟨0, [0, 46340, 0, 46339]⟩) multiplierProgram.toDraft 4294883880 =
        .ok (count, ⟨1, [2147395600, 46340, 0, 0]⟩)) ∧
    multiply 46341 46341 = .error (.run (.fault (.overflow 0 2147483648))) ∧
    multiply 0 2147483648 = .ok 0 := by
  have square := (multiply_exact.1 46340 46340 (by decide) (by decide) (by decide) (by decide)).1
    (by decide)
  refine ⟨square.1, square.2, ?_, ?_⟩
  · exact (multiply_exact.1 46341 46341 (by decide) (by decide) (by decide) (by decide)).2
      (by decide)
  · exact ((multiply_exact.1 0 2147483648 (by decide) (by decide) (by decide) (by decide)).1
      (by decide)).1

/-! ## The program with six rules -/

/-- State 0 takes one unit of the second factor. -/
theorem sixRule_takes (sum : (acc : Int) ≤ maxValue) (factor : (x : Int) ≤ maxValue)
    (others : ((rest + 1 : Nat) : Int) ≤ maxValue) :
    sixRuleMultiplierProgram.trajectory ⟨0, [acc, x, (rest + 1 : Nat), 0]⟩ 1 =
      some ⟨1, [acc, x, rest, 0]⟩ := by
  have taken := @trajectory_once sixRuleMultiplierProgram ⟨0, 1, [0, 0, -1, 0]⟩ [] _
    [acc, x, (rest + 1 : Nat), 0] rfl rfl
    (by simp only [Rule.supplies_cons, Rule.supplies_nil, and_true]; omega) (by simp)
    (by simp only [Rule.contained_cons, Rule.contained_nil, and_true]; omega)
  simpa [Rule.repeated, Int.add_neg_cancel_right] using taken

/-- State 1 moves units of the first factor onto tape 0 and the scratch tape. -/
theorem sixRule_drains (sum : ((acc + units : Nat) : Int) ≤ maxValue)
    (factor : ((left + units : Nat) : Int) ≤ maxValue) (others : (rest : Int) ≤ maxValue) :
    sixRuleMultiplierProgram.trajectory ⟨1, [acc, (left + units : Nat), rest, 0]⟩ units =
      some ⟨1, [(acc + units : Nat), left, rest, units]⟩ := by
  have drained := @trajectory_repeated sixRuleMultiplierProgram ⟨1, 1, [1, -1, 0, 1]⟩
    [⟨0, 1, [0, 0, -1, 0]⟩] _ [acc, (left + units : Nat), rest, 0] units rfl rfl rfl
    (by simp only [Rule.supplies_cons, Rule.supplies_nil, and_true]; omega)
    (by simp only [Rule.contained_cons, Rule.contained_nil, and_true]; omega)
    (by simp [Rule.applies_iff])
  simpa [Rule.repeated, Int.add_neg_cancel_right] using drained

/-- State 1 gives way to state 2 once the first factor has been drained. -/
theorem sixRule_turns (sum : (acc : Int) ≤ maxValue) (factor : (x : Int) ≤ maxValue)
    (others : (rest : Int) ≤ maxValue) :
    sixRuleMultiplierProgram.trajectory ⟨1, [acc, 0, rest, x]⟩ 1 =
      some ⟨2, [acc, 0, rest, x]⟩ := by
  have turned := @trajectory_once sixRuleMultiplierProgram ⟨1, 2, [0, 0, 0, 0]⟩
    [⟨0, 1, [0, 0, -1, 0]⟩, ⟨1, 1, [1, -1, 0, 1]⟩] _ [acc, 0, rest, x] rfl rfl
    (by simp only [Rule.supplies_cons, Rule.supplies_nil, and_true]; omega)
    (by simp [Rule.applies_iff, Rule.guardsHold_cons])
    (by simp only [Rule.contained_cons, Rule.contained_nil, and_true]; omega)
  simpa [Rule.repeated] using turned

/-- State 2 restores the first factor from the scratch tape. -/
theorem sixRule_restores (sum : (acc : Int) ≤ maxValue) (factor : (x : Int) ≤ maxValue)
    (others : (rest : Int) ≤ maxValue) :
    sixRuleMultiplierProgram.trajectory ⟨2, [acc, 0, rest, x]⟩ x =
      some ⟨2, [acc, x, rest, 0]⟩ := by
  have restored := @trajectory_repeated sixRuleMultiplierProgram ⟨2, 2, [0, 1, 0, -1]⟩
    [⟨0, 1, [0, 0, -1, 0]⟩, ⟨1, 1, [1, -1, 0, 1]⟩, ⟨1, 2, [0, 0, 0, 0]⟩] _ [acc, 0, rest, x] x
    rfl rfl rfl
    (by simp only [Rule.supplies_cons, Rule.supplies_nil, and_true]; omega)
    (by simp only [Rule.contained_cons, Rule.contained_nil, and_true]; omega)
    (by simp [Rule.applies_iff])
  simpa [Rule.repeated, Int.add_right_neg] using restored

/-- State 2 gives way to state 0 once the first factor has been restored. -/
theorem sixRule_returns (sum : (acc : Int) ≤ maxValue) (factor : (x : Int) ≤ maxValue)
    (others : (rest : Int) ≤ maxValue) :
    sixRuleMultiplierProgram.trajectory ⟨2, [acc, x, rest, 0]⟩ 1 =
      some ⟨0, [acc, x, rest, 0]⟩ := by
  have returned := @trajectory_once sixRuleMultiplierProgram ⟨2, 0, [0, 0, 0, 0]⟩
    [⟨0, 1, [0, 0, -1, 0]⟩, ⟨1, 1, [1, -1, 0, 1]⟩, ⟨1, 2, [0, 0, 0, 0]⟩, ⟨2, 2, [0, 1, 0, -1]⟩] _
    [acc, x, rest, 0] rfl rfl
    (by simp only [Rule.supplies_cons, Rule.supplies_nil, and_true]; omega)
    (by simp [Rule.applies_iff, Rule.guardsHold_cons])
    (by simp only [Rule.contained_cons, Rule.contained_nil, and_true]; omega)
  simpa [Rule.repeated] using returned

/-- Once the second factor is used up, state 0 clears the first. -/
theorem sixRule_clears (sum : (acc : Int) ≤ maxValue) (factor : (x : Int) ≤ maxValue) :
    sixRuleMultiplierProgram.trajectory ⟨0, [acc, x, 0, 0]⟩ x = some ⟨0, [acc, 0, 0, 0]⟩ := by
  have cleared := @trajectory_repeated sixRuleMultiplierProgram ⟨0, 0, [0, -1, 0, 0]⟩
    [⟨0, 1, [0, 0, -1, 0]⟩, ⟨1, 1, [1, -1, 0, 1]⟩, ⟨1, 2, [0, 0, 0, 0]⟩, ⟨2, 2, [0, 1, 0, -1]⟩,
      ⟨2, 0, [0, 0, 0, 0]⟩] _ [acc, x, 0, 0] x rfl rfl rfl
    (by simp only [Rule.supplies_cons, Rule.supplies_nil, and_true]; omega)
    (by simp only [Rule.contained_cons, Rule.contained_nil, and_true]; omega)
    (by simp [Rule.repeated, Rule.applies_iff, Rule.guardsHold_cons])
  simpa [Rule.repeated, Int.add_right_neg] using cleared

/-- State 0 halts once both factors are used up. -/
theorem sixRule_halts : sixRuleMultiplierProgram.next ⟨0, [acc, 0, 0, 0]⟩ = .halt := by
  have idle := @Program.firstApplicable?_of_idle sixRuleMultiplierProgram ⟨0, [acc, 0, 0, 0]⟩
    (by simp [sixRuleMultiplierProgram, Rule.applies_iff, Rule.guardsHold_cons])
  rw [Program.next, idle]

/-- The addition that passes the limit breaks off while the first factor is drained. -/
theorem sixRule_breaks (sum : (acc : Int) ≤ maxValue)
    (passes : maxValue < ((acc + x : Nat) : Int)) (factor : (x : Int) ≤ maxValue)
    (others : ((rest + 1 : Nat) : Int) ≤ maxValue) :
    ∃ count < 2 * x + 3, ∃ last,
      sixRuleMultiplierProgram.trajectory ⟨0, [acc, x, (rest + 1 : Nat), 0]⟩ count = some last ∧
        sixRuleMultiplierProgram.next last = .overflow 0 (maxValue + 1) := by
  obtain ⟨units, full⟩ : ∃ units : Nat, ((acc + units : Nat) : Int) = maxValue :=
    ⟨(maxValue - acc).toNat, by omega⟩
  obtain ⟨left, rfl⟩ : ∃ left, x = left + 1 + units := ⟨x - units - 1, by omega⟩
  have taken := sixRule_takes sum factor others
  have drained := @sixRule_drains acc units (left + 1) rest (by omega) factor (by omega)
  refine ⟨1 + units, by omega, _, trajectory_trans taken drained, ?_⟩
  rw [full]
  exact @Program.next_of_overflow_first sixRuleMultiplierProgram ⟨1, 1, [1, -1, 0, 1]⟩
    [⟨0, 1, [0, 0, -1, 0]⟩] _ [maxValue, (left + 1 : Nat), rest, units] rfl rfl
    (by simp only [Rule.supplies_cons, Rule.supplies_nil, and_true]; omega)
    (by simp [Rule.applies_iff]) _ _ rfl (by omega)

/-- The machine at the beginning of a round. -/
def sixRuleRound (x y number : Nat) : Machine :=
  ⟨0, [(number * x : Nat), x, (y - number : Nat), 0]⟩

theorem sixRuleRound_zero : sixRuleRound x y 0 = ⟨0, [0, x, y, 0]⟩ := by
  simp [sixRuleRound]

theorem sixRuleRound_self : sixRuleRound x y y = ⟨0, [(y * x : Nat), x, 0, 0]⟩ := by
  simp [sixRuleRound]

/-- A round takes one unit of the second factor and adds the first. -/
theorem sixRule_round {number : Nat} (below : number < y)
    (sum : (((number + 1) * x : Nat) : Int) ≤ maxValue) (factor : (x : Int) ≤ maxValue)
    (others : (y : Int) ≤ maxValue) :
    sixRuleMultiplierProgram.trajectory (sixRuleRound x y number) (2 * x + 3) =
      some (sixRuleRound x y (number + 1)) := by
  obtain ⟨rest, rfl⟩ : ∃ rest, y = number + 1 + rest := ⟨y - number - 1, by omega⟩
  have before : number + 1 + rest - number = rest + 1 := by omega
  have after : number + 1 + rest - (number + 1) = rest := by omega
  rw [Nat.add_one_mul number] at sum
  have taken := @sixRule_takes (number * x) x rest (by omega) factor (by omega)
  have drained := @sixRule_drains (number * x) x 0 rest sum (by omega) (by omega)
  rw [Nat.zero_add] at drained
  have turned := trajectory_trans (trajectory_trans taken drained)
    (sixRule_turns sum factor (by omega))
  have restored := trajectory_trans turned (sixRule_restores sum factor (by omega))
  have returned := trajectory_trans restored (sixRule_returns sum factor (by omega))
  rw [sixRuleRound, sixRuleRound, before, after, Nat.add_one_mul number,
    show 2 * x + 3 = 1 + x + 1 + x + 1 by omega]
  exact returned

theorem sixRule_multiplies (product : ((x * y : Nat) : Int) ≤ maxValue)
    (factor : (x : Int) ≤ maxValue) (others : (y : Int) ≤ maxValue) :
    sixRuleMultiplierProgram.trajectory ⟨0, [0, x, y, 0]⟩ (y * (2 * x + 3) + x) =
      some ⟨0, [(x * y : Nat), 0, 0, 0]⟩ := by
  rw [Nat.mul_comm x] at product ⊢
  have complete := @Program.trajectory_rounds sixRuleMultiplierProgram (sixRuleRound x y)
    (2 * x + 3) y (by
      intro number below
      have fewer : (number + 1) * x ≤ y * x := Nat.mul_le_mul_right x below
      exact sixRule_round below (by omega) factor others)
  rw [sixRuleRound_zero, sixRuleRound_self] at complete
  exact trajectory_trans complete (sixRule_clears product factor)

theorem sixRule_overflows (product : maxValue < ((x * y : Nat) : Int))
    (factor : (x : Int) ≤ maxValue) (others : (y : Int) ≤ maxValue) :
    ∃ count < y * (2 * x + 3), ∃ last,
      sixRuleMultiplierProgram.trajectory ⟨0, [0, x, y, 0]⟩ count = some last ∧
        sixRuleMultiplierProgram.next last = .overflow 0 (maxValue + 1) := by
  have broken := @Program.exists_overflow_of_rounds sixRuleMultiplierProgram (sixRuleRound x y)
    (2 * x + 3) x y product (fun number below sum => sixRule_round (by omega) sum factor others)
    (by
      intro number below sum passes
      obtain ⟨rest, rfl⟩ : ∃ rest, y = number + 1 + rest := ⟨y - number - 1, by omega⟩
      have before : number + 1 + rest - number = rest + 1 := by omega
      rw [Nat.add_one_mul] at passes
      rw [sixRuleRound, before]
      exact sixRule_breaks sum passes factor (by omega))
  rwa [sixRuleRound_zero] at broken

theorem wellFormed_sixRuleMultiplierProgram : sixRuleMultiplierProgram.WellFormed := by
  have accepted : sixRuleMultiplierProgram.toDraft.accept = .ok sixRuleMultiplierProgram := rfl
  exact (DraftProgram.accept_eq_ok.1 accepted).2

/-- The start of the program fits exactly if both factors do. -/
theorem fits_sixRuleMultiplier {x y : Int} :
    Machine.Fits sixRuleMultiplierProgram.tapes ⟨0, sixRuleMultiplierCounters x y⟩ ↔
      (0 ≤ x ∧ x ≤ maxValue) ∧ 0 ≤ y ∧ y ≤ maxValue := by
  constructor
  · intro fits
    have bounded := fits.counters_bounded
    simp only [sixRuleMultiplierCounters, List.forall_mem_cons] at bounded
    exact ⟨bounded.2.1, bounded.2.2.1⟩
  · rintro ⟨first, second⟩
    refine ⟨rfl, Int.le_refl 0, ?_⟩
    simp only [sixRuleMultiplierCounters, List.forall_mem_cons]
    exact ⟨by decide, first, second, by decide, by simp⟩

theorem sixRuleMultiply_eq_compute {x y : Int} (xNonneg : 0 ≤ x) (yNonneg : 0 ≤ y) :
    sixRuleMultiply x y = compute sixRuleMultiplierProgram (sixRuleMultiplierCounters x y)
      ((2 * x + 3) * y + x + 1) := by
  simp [sixRuleMultiply, checkNonnegative, Int.not_lt.2 xNonneg, Int.not_lt.2 yNonneg, bind,
    Except.bind]

theorem sixRuleFuel_nonneg {x y : Int} (xNonneg : 0 ≤ x) (yNonneg : 0 ≤ y) :
    0 ≤ (2 * x + 3) * y + x + 1 := by
  have rounds : 0 ≤ (2 * x + 3) * y := Int.mul_nonneg (by omega) yNonneg
  omega

section SixRuleRuns

variable {x y : Int} (xNonneg : 0 ≤ x) (xBound : x ≤ maxValue) (yNonneg : 0 ≤ y)
  (yBound : y ≤ maxValue)
include xNonneg xBound yNonneg yBound

theorem interpret_sixRule_of_le (product : x * y ≤ maxValue) :
    ∃ count : Nat, (count : Int) = (2 * x + 3) * y + x ∧
      interpret (Machine.toDraft ⟨0, sixRuleMultiplierCounters x y⟩)
        sixRuleMultiplierProgram.toDraft ((2 * x + 3) * y + x + 1) =
        .ok (count, ⟨0, [x * y, 0, 0, 0]⟩) := by
  have fits := fits_sixRuleMultiplier.2 ⟨⟨xNonneg, xBound⟩, yNonneg, yBound⟩
  have nonneg := sixRuleFuel_nonneg xNonneg yNonneg
  obtain ⟨x, rfl⟩ := Int.eq_ofNat_of_zero_le xNonneg
  obtain ⟨y, rfl⟩ := Int.eq_ofNat_of_zero_le yNonneg
  have reached := @sixRule_multiplies x y (by simpa using product) xBound yBound
  have count_eq : ((y * (2 * x + 3) + x : Nat) : Int) = (2 * (x : Int) + 3) * y + x := by
    push_cast
    ring
  refine ⟨_, count_eq, interpret_of_concludes wellFormed_sixRuleMultiplierProgram fits nonneg ?_⟩
  have halted := @sixRule_halts (x * y)
  push_cast at reached halted
  exact .halts reached halted (.inr (by omega))

theorem interpret_sixRule_of_lt (product : maxValue < x * y) :
    interpret (Machine.toDraft ⟨0, sixRuleMultiplierCounters x y⟩)
      sixRuleMultiplierProgram.toDraft ((2 * x + 3) * y + x + 1) =
      .error (.fault (.overflow 0 (maxValue + 1))) := by
  have fits := fits_sixRuleMultiplier.2 ⟨⟨xNonneg, xBound⟩, yNonneg, yBound⟩
  have nonneg := sixRuleFuel_nonneg xNonneg yNonneg
  obtain ⟨x, rfl⟩ := Int.eq_ofNat_of_zero_le xNonneg
  obtain ⟨y, rfl⟩ := Int.eq_ofNat_of_zero_le yNonneg
  obtain ⟨count, below, last, reached, overflowed⟩ :=
    @sixRule_overflows x y (by simpa using product) xBound yBound
  have bound : ((y * (2 * x + 3) : Nat) : Int) = (2 * (x : Int) + 3) * y := by
    push_cast
    ring
  refine interpret_of_concludes wellFormed_sixRuleMultiplierProgram fits nonneg ?_
  exact .overflows reached overflowed (.inr (by omega))

theorem sixRuleMultiply_of_le (product : x * y ≤ maxValue) :
    sixRuleMultiply x y = .ok (x * y) := by
  obtain ⟨count, -, returned⟩ := interpret_sixRule_of_le xNonneg xBound yNonneg yBound product
  rw [sixRuleMultiply_eq_compute xNonneg yNonneg, compute_of_ok returned]
  rfl

theorem sixRuleMultiply_of_lt (product : maxValue < x * y) :
    sixRuleMultiply x y = .error (.run (.fault (.overflow 0 (maxValue + 1)))) := by
  rw [sixRuleMultiply_eq_compute xNonneg yNonneg]
  exact compute_of_error (interpret_sixRule_of_lt xNonneg xBound yNonneg yBound product)

end SixRuleRuns

theorem sixRuleMultiply_ne_outOfFuel {x y fuel : Int} {steps : Nat} :
    sixRuleMultiply x y ≠ .error (.run (.outOfFuel fuel steps)) := by
  intro exhausted
  by_cases xNonneg : 0 ≤ x
  · by_cases yNonneg : 0 ≤ y
    · rw [sixRuleMultiply_eq_compute xNonneg yNonneg] at exhausted
      refine compute_ne_outOfFuel wellFormed_sixRuleMultiplierProgram
        (sixRuleFuel_nonneg xNonneg yNonneg) ?_ exhausted
      intro fits
      obtain ⟨⟨-, xBound⟩, -, yBound⟩ := fits_sixRuleMultiplier.1 fits
      rw [← sixRuleMultiply_eq_compute xNonneg yNonneg]
      by_cases product : x * y ≤ maxValue
      · exact .inl ⟨_, sixRuleMultiply_of_le xNonneg xBound yNonneg yBound product⟩
      · exact .inr ⟨_, sixRuleMultiply_of_lt xNonneg xBound yNonneg yBound (by omega)⟩
    · simp [sixRuleMultiply, checkNonnegative, Int.not_lt.2 xNonneg, Int.not_le.1 yNonneg, bind,
        Except.bind] at exhausted
  · simp [sixRuleMultiply, checkNonnegative, Int.not_le.1 xNonneg, bind, Except.bind] at exhausted

/-- The six-rule program multiplies all numbers that fit on its tapes, clears both factors, and uses
all but one unit of its fuel. If the product is too large it overflows tape 0. On no numbers at all
does it run out of fuel. -/
theorem sixRuleMultiply_exact :
    (∀ x y : Int, 0 ≤ x → x ≤ maxValue → 0 ≤ y → y ≤ maxValue →
      (x * y ≤ maxValue → sixRuleMultiply x y = .ok (x * y) ∧
        ∃ count : Nat, (count : Int) = (2 * x + 3) * y + x ∧
          interpret (Machine.toDraft ⟨0, [0, x, y, 0]⟩) sixRuleMultiplierProgram.toDraft
            ((2 * x + 3) * y + x + 1) = .ok (count, ⟨0, [x * y, 0, 0, 0]⟩)) ∧
      (maxValue < x * y →
        sixRuleMultiply x y = .error (.run (.fault (.overflow 0 (maxValue + 1)))))) ∧
    ∀ x y fuel steps, sixRuleMultiply x y ≠ .error (.run (.outOfFuel fuel steps)) := by
  refine ⟨?_, fun _ _ _ _ => sixRuleMultiply_ne_outOfFuel⟩
  intro x y xNonneg xBound yNonneg yBound
  constructor
  · intro product
    exact ⟨sixRuleMultiply_of_le xNonneg xBound yNonneg yBound product,
      interpret_sixRule_of_le xNonneg xBound yNonneg yBound product⟩
  · exact sixRuleMultiply_of_lt xNonneg xBound yNonneg yBound

/-- The largest square that fits, with all that its run does, the next one, and no factors. -/
theorem sixRuleMultiply_exact_at_limits :
    sixRuleMultiply 46340 46340 = .ok 2147395600 ∧
    (∃ count : Nat, (count : Int) = 4294976560 ∧
      interpret (Machine.toDraft ⟨0, [0, 46340, 46340, 0]⟩) sixRuleMultiplierProgram.toDraft
        4294976561 = .ok (count, ⟨0, [2147395600, 0, 0, 0]⟩)) ∧
    sixRuleMultiply 46341 46341 = .error (.run (.fault (.overflow 0 2147483648))) ∧
    sixRuleMultiply 0 0 = .ok 0 := by
  have square :=
    (sixRuleMultiply_exact.1 46340 46340 (by decide) (by decide) (by decide) (by decide)).1
      (by decide)
  refine ⟨square.1, square.2, ?_, ?_⟩
  · exact (sixRuleMultiply_exact.1 46341 46341 (by decide) (by decide) (by decide) (by decide)).2
      (by decide)
  · exact ((sixRuleMultiply_exact.1 0 0 (by decide) (by decide) (by decide) (by decide)).1
      (by decide)).1

end CounterMachine.Library
