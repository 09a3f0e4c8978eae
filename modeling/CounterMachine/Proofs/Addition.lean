import CounterMachine.Proofs.Computation
import CounterMachine.Proofs.Defects
import CounterMachine.Proofs.Repetition

/-!
# Addition

The adder has one rule, which moves a unit from the second tape to the first. It fires until the
second tape is empty or the first is full, and which of the two comes first decides between the sum
and an overflow. Twice the second summand is fuel enough for either, also where both summands are
zero or one.
-/

namespace CounterMachine.Library

open Program (trajectory_repeated)

section Trajectory

variable {acc units left : Nat}

/-- Units move from the second tape to the first. -/
theorem adder_moves (sum : ((acc + units : Nat) : Int) ≤ maxValue)
    (second : ((left + units : Nat) : Int) ≤ maxValue) :
    adderProgram.trajectory ⟨0, [acc, (left + units : Nat)]⟩ units =
      some ⟨0, [(acc + units : Nat), left]⟩ := by
  have moved := @trajectory_repeated adderProgram ⟨0, 0, [1, -1]⟩ [] _
    [acc, (left + units : Nat)] units rfl rfl rfl
    (by simp only [Rule.supplies_cons, Rule.supplies_nil, and_true]; omega)
    (by simp only [Rule.contained_cons, Rule.contained_nil, and_true]; omega) (by simp)
  simpa [Rule.repeated, Int.add_neg_cancel_right] using moved

/-- The adder halts once the second tape is empty. -/
theorem adder_halts : adderProgram.next ⟨0, [acc, 0]⟩ = .halt := by
  have idle := @Program.firstApplicable?_of_idle adderProgram ⟨0, [acc, 0]⟩
    (by simp [adderProgram, Rule.applies_iff, Rule.guardsHold_cons])
  rw [Program.next, idle]

/-- If the sum is too large, the first tape is full before the second is empty. -/
theorem adder_overflows {x y : Nat} (passes : maxValue < ((x + y : Nat) : Int))
    (first : (x : Int) ≤ maxValue) (second : (y : Int) ≤ maxValue) :
    ∃ count < y, ∃ last, adderProgram.trajectory ⟨0, [x, y]⟩ count = some last ∧
      adderProgram.next last = .overflow 0 (maxValue + 1) := by
  -- what still fits on tape 0, and what is then left on tape 1
  obtain ⟨units, full⟩ : ∃ units : Nat, ((x + units : Nat) : Int) = maxValue :=
    ⟨(maxValue - x).toNat, by omega⟩
  obtain ⟨left, rfl⟩ : ∃ left, y = left + 1 + units := ⟨y - units - 1, by omega⟩
  have moved := @adder_moves x units (left + 1) (by omega) second
  refine ⟨units, by omega, _, moved, ?_⟩
  rw [full]
  exact @Program.next_of_overflow_first adderProgram ⟨0, 0, [1, -1]⟩ [] _
    [maxValue, (left + 1 : Nat)] rfl rfl
    (by simp only [Rule.supplies_cons, Rule.supplies_nil, and_true]; omega) (by simp) _ _ rfl
    (by omega)

end Trajectory

variable {x y : Int}

theorem wellFormed_adderProgram : adderProgram.WellFormed := by
  have accepted : adderProgram.toDraft.accept = .ok adderProgram := rfl
  exact (DraftProgram.accept_eq_ok.1 accepted).2

theorem fits_adder (xNonneg : 0 ≤ x) (xBound : x ≤ maxValue) (yNonneg : 0 ≤ y)
    (yBound : y ≤ maxValue) : Machine.Fits adderProgram.tapes ⟨0, adderCounters x y⟩ := by
  refine ⟨rfl, Int.le_refl 0, ?_⟩
  simp only [adderCounters, List.forall_mem_cons]
  exact ⟨⟨xNonneg, xBound⟩, ⟨yNonneg, yBound⟩, by simp⟩

/-- The first summand that does not fit on its tape is what the machine is refused for. -/
theorem accept_adder_first (large : maxValue < x) :
    (Machine.toDraft ⟨0, adderCounters x y⟩).accept adderProgram.tapes =
      .error (.ofDefect (.counterOutOfRange 0 x)) := by
  simp [DraftMachine.accept, DraftMachine.defect?, Machine.toDraft, adderCounters, adderProgram,
    Scalar.isState, counterDefect?, Scalar.toInt?, large]

theorem accept_adder_second (xNonneg : 0 ≤ x) (xBound : x ≤ maxValue) (large : maxValue < y) :
    (Machine.toDraft ⟨0, adderCounters x y⟩).accept adderProgram.tapes =
      .error (.ofDefect (.counterOutOfRange 1 y)) := by
  have fits : ¬ (x < 0 ∨ maxValue < x) := by omega
  simp [DraftMachine.accept, DraftMachine.defect?, Machine.toDraft, adderCounters, adderProgram,
    Scalar.isState, counterDefect?, Scalar.toInt?, fits, large]

theorem ofDefect_counterOutOfRange {tape : Nat} {value : Int} :
    Refusal.ofDefect (.counterOutOfRange tape value) =
      if Text.Numeral.isShowable value then .defective (.counterOutOfRange tape value)
      else .unshowable := by
  simp [Refusal.ofDefect, Defect.isShowable, Defect.numbers]

theorem add_eq_compute (xNonneg : 0 ≤ x) (yNonneg : 0 ≤ y) :
    add x y = compute adderProgram (adderCounters x y) (2 * y) := by
  simp [add, checkNonnegative, Int.not_lt.2 xNonneg, Int.not_lt.2 yNonneg, bind, Except.bind]

theorem add_of_negative_first (negative : x < 0) : add x y = .error (.negative "x" x) := by
  simp [add, checkNonnegative, negative, bind, Except.bind]

theorem add_of_negative_second (xNonneg : 0 ≤ x) (negative : y < 0) :
    add x y = .error (.negative "y" y) := by
  simp [add, checkNonnegative, Int.not_lt.2 xNonneg, negative, bind, Except.bind]

theorem affordable_adder {fuel : Int} (enough : y < fuel ∨ y = 0) :
    Affordable fuel y.toNat := by
  unfold Affordable
  omega

section Runs

variable (xNonneg : 0 ≤ x) (xBound : x ≤ maxValue) (yNonneg : 0 ≤ y) (yBound : y ≤ maxValue)
include xNonneg xBound yNonneg yBound

theorem adder_settles (sum : x + y ≤ maxValue) :
    adderProgram.trajectory ⟨0, adderCounters x y⟩ y.toNat = some ⟨0, [x + y, 0]⟩ ∧
      adderProgram.next ⟨0, [x + y, 0]⟩ = .halt := by
  obtain ⟨x, rfl⟩ := Int.eq_ofNat_of_zero_le xNonneg
  obtain ⟨y, rfl⟩ := Int.eq_ofNat_of_zero_le yNonneg
  have moved := @adder_moves x y 0 (by omega) (by omega)
  have halted := @adder_halts (x + y)
  rw [Nat.zero_add] at moved
  push_cast at moved halted
  exact ⟨moved, halted⟩

theorem interpret_adder {fuel : Int} (nonneg : 0 ≤ fuel) (sum : x + y ≤ maxValue)
    (enough : y < fuel ∨ y = 0) :
    interpret (Machine.toDraft ⟨0, adderCounters x y⟩) adderProgram.toDraft fuel =
      .ok (y.toNat, ⟨0, [x + y, 0]⟩) := by
  obtain ⟨reached, halted⟩ := adder_settles xNonneg xBound yNonneg yBound sum
  exact interpret_of_concludes wellFormed_adderProgram (fits_adder xNonneg xBound yNonneg yBound)
    nonneg (.halts reached halted (affordable_adder enough))

theorem haltsInSession_adder {fuel : Int} (sum : x + y ≤ maxValue) (enough : y < fuel ∨ y = 0) :
    adderProgram.HaltsInSession fuel ⟨0, adderCounters x y⟩ y.toNat ⟨0, [x + y, 0]⟩ := by
  obtain ⟨reached, halted⟩ := adder_settles xNonneg xBound yNonneg yBound sum
  exact Program.haltsInSession_of_trajectory wellFormed_adderProgram
    (fits_adder xNonneg xBound yNonneg yBound) (affordable_adder enough) reached halted

theorem add_of_le (sum : x + y ≤ maxValue) : add x y = .ok (x + y) := by
  have halts := @interpret_adder x y xNonneg xBound yNonneg yBound (2 * y) (by omega) sum (by omega)
  rw [add_eq_compute xNonneg yNonneg, compute_of_ok halts]
  rfl

theorem add_of_lt (sum : maxValue < x + y) :
    add x y = .error (.run (.fault (.overflow 0 (maxValue + 1)))) := by
  have fits := fits_adder xNonneg xBound yNonneg yBound
  rw [add_eq_compute xNonneg yNonneg]
  apply compute_of_error
  obtain ⟨x, rfl⟩ := Int.eq_ofNat_of_zero_le xNonneg
  obtain ⟨y, rfl⟩ := Int.eq_ofNat_of_zero_le yNonneg
  obtain ⟨count, below, last, reached, overflowed⟩ :=
    @adder_overflows x y (by simpa using sum) xBound yBound
  -- the overflow comes before as many firings as the fuel has units
  refine interpret_of_concludes wellFormed_adderProgram fits (by omega) ?_
  exact .overflows reached overflowed (.inr (by omega))

end Runs

theorem add_of_large_first (large : maxValue < x) (yNonneg : 0 ≤ y) :
    add x y = .error (.run (.malformed
      (if Text.Numeral.isShowable x then .defective (.counterOutOfRange 0 x)
        else .unshowable))) := by
  have xNonneg : 0 ≤ x := Int.le_of_lt (Int.lt_trans (by decide) large)
  rw [add_eq_compute xNonneg yNonneg, ← ofDefect_counterOutOfRange]
  exact compute_of_error
    (interpret_of_refused wellFormed_adderProgram (by omega) (accept_adder_first large))

theorem add_of_large_second (xNonneg : 0 ≤ x) (xBound : x ≤ maxValue) (large : maxValue < y) :
    add x y = .error (.run (.malformed
      (if Text.Numeral.isShowable y then .defective (.counterOutOfRange 1 y)
        else .unshowable))) := by
  have yNonneg : 0 ≤ y := Int.le_of_lt (Int.lt_trans (by decide) large)
  rw [add_eq_compute xNonneg yNonneg, ← ofDefect_counterOutOfRange]
  exact compute_of_error (interpret_of_refused wellFormed_adderProgram (by omega)
    (accept_adder_second xNonneg xBound large))

theorem add_ne_outOfFuel {fuel : Int} {steps : Nat} :
    add x y ≠ .error (.run (.outOfFuel fuel steps)) := by
  rcases Int.lt_or_le x 0 with negative | xNonneg
  · simp [add_of_negative_first negative]
  rcases Int.lt_or_le y 0 with negative | yNonneg
  · simp [add_of_negative_second xNonneg negative]
  rcases Int.lt_or_le maxValue x with large | xBound
  · simp [add_of_large_first large yNonneg]
  rcases Int.lt_or_le maxValue y with large | yBound
  · simp [add_of_large_second xNonneg xBound large]
  rcases Int.lt_or_le maxValue (x + y) with large | sum
  · simp [add_of_lt xNonneg xBound yNonneg yBound large]
  · simp [add_of_le xNonneg xBound yNonneg yBound sum]

/-- The adder is exact. Numbers that fit on its tapes are added: under every budget above the second
number, and under any budget if that is zero, the program halts after as many firings as the second
number says. A run of its own does so if its budget is not negative, a session also on a negative
budget that is set. If the sum is too large, tape 0 overflows. Other numbers are refused: a negative
one by its name, and one that is too large for its tape by that tape, unless it has more than
`digitLimit` digits, which leaves it without a word. On no numbers at all is the adder out of
fuel. -/
theorem add_exact :
    (∀ x y : Int, 0 ≤ x → x ≤ maxValue → 0 ≤ y → y ≤ maxValue →
      (x + y ≤ maxValue → add x y = .ok (x + y) ∧
        ∀ fuel : Int, y < fuel ∨ y = 0 →
          (0 ≤ fuel → interpret (Machine.toDraft ⟨0, [x, y]⟩) adderProgram.toDraft fuel =
            .ok (y.toNat, ⟨0, [x + y, 0]⟩)) ∧
          adderProgram.HaltsInSession fuel ⟨0, [x, y]⟩ y.toNat ⟨0, [x + y, 0]⟩) ∧
      (maxValue < x + y →
        add x y = .error (.run (.fault (.overflow 0 (maxValue + 1)))))) ∧
    (∀ x y : Int, x < 0 → add x y = .error (.negative "x" x)) ∧
    (∀ x y : Int, 0 ≤ x → y < 0 → add x y = .error (.negative "y" y)) ∧
    (∀ x y : Int, maxValue < x → 0 ≤ y → add x y = .error (.run (.malformed
      (if Text.Numeral.isShowable x then .defective (.counterOutOfRange 0 x)
        else .unshowable)))) ∧
    (∀ x y : Int, 0 ≤ x → x ≤ maxValue → maxValue < y → add x y = .error (.run (.malformed
      (if Text.Numeral.isShowable y then .defective (.counterOutOfRange 1 y)
        else .unshowable)))) ∧
    ∀ x y fuel steps, add x y ≠ .error (.run (.outOfFuel fuel steps)) := by
  refine ⟨?_, fun _ _ => add_of_negative_first, fun _ _ => add_of_negative_second,
    fun _ _ => add_of_large_first, fun _ _ => add_of_large_second,
    fun _ _ _ _ => add_ne_outOfFuel⟩
  intro x y xNonneg xBound yNonneg yBound
  constructor
  · intro sum
    refine ⟨add_of_le xNonneg xBound yNonneg yBound sum, ?_⟩
    intro fuel enough
    exact ⟨fun nonneg => interpret_adder xNonneg xBound yNonneg yBound nonneg sum enough,
      haltsInSession_adder xNonneg xBound yNonneg yBound sum enough⟩
  · exact add_of_lt xNonneg xBound yNonneg yBound

/-- Nothing and one added under the smallest budgets, the largest sum that fits and the next one,
and numbers of either kind that are refused. -/
theorem add_exact_at_limits :
    add 0 0 = .ok 0 ∧
    interpret (Machine.toDraft ⟨0, [0, 0]⟩) adderProgram.toDraft 0 = .ok (0, ⟨0, [0, 0]⟩) ∧
    adderProgram.HaltsInSession (-1) ⟨0, [0, 0]⟩ 0 ⟨0, [0, 0]⟩ ∧
    interpret (Machine.toDraft ⟨0, [0, 1]⟩) adderProgram.toDraft 2 = .ok (1, ⟨0, [1, 0]⟩) ∧
    add 1 2147483646 = .ok 2147483647 ∧
    add 2 2147483646 = .error (.run (.fault (.overflow 0 2147483648))) ∧
    add (-1) 2147483648 = .error (.negative "x" (-1)) ∧
    add 2147483648 (-1) = .error (.negative "y" (-1)) ∧
    add 2147483648 2147483649 =
      .error (.run (.malformed (.defective (.counterOutOfRange 0 2147483648)))) ∧
    add 1 2147483648 =
      .error (.run (.malformed (.defective (.counterOutOfRange 1 2147483648)))) := by
  obtain ⟨sums, negativeFirst, negativeSecond, largeFirst, largeSecond, -⟩ := add_exact
  have nothing := (sums 0 0 (by decide) (by decide) (by decide) (by decide)).1 (by decide)
  have one := (sums 0 1 (by decide) (by decide) (by decide) (by decide)).1 (by decide)
  have largest := sums 1 2147483646 (by decide) (by decide) (by decide) (by decide)
  have next := sums 2 2147483646 (by decide) (by decide) (by decide) (by decide)
  refine ⟨nothing.1, (nothing.2 0 (.inr rfl)).1 (by decide), (nothing.2 (-1) (.inr rfl)).2,
    (one.2 2 (.inl (by decide))).1 (by decide), ?_, ?_, ?_, ?_, ?_, ?_⟩
  · exact (largest.1 (by decide)).1
  · exact next.2 (by decide)
  · exact negativeFirst (-1) 2147483648 (by decide)
  · exact negativeSecond 2147483648 (-1) (by decide) (by decide)
  · exact largeFirst 2147483648 2147483649 (by decide) (by decide)
  · exact largeSecond 1 2147483648 (by decide) (by decide) (by decide)

/-- A summand of one digit more than can be shown is refused without a defect, and a run that would
halt at once is not begun on a budget below zero. -/
theorem add_inexact_beyond_limits :
    let large : Int := ((10 ^ 4300 : Nat) : Int)
    maxValue < large ∧ add large 0 = .error (.run (.malformed .unshowable)) ∧
      interpret (Machine.toDraft ⟨0, [5, 0]⟩) adderProgram.toDraft (-1) =
        .error (.negativeFuel (-1)) := by
  intro large
  have hidden : Text.Numeral.isShowable large = false :=
    Text.Numeral.isShowable_pow 4300 (Nat.le_refl 4300)
  have outside : maxValue < large := maxValue_lt_of_not_showable (Int.natCast_nonneg _) hidden
  refine ⟨outside, ?_, rfl⟩
  rw [add_of_large_first outside (Int.le_refl 0)]
  simp only [hidden, Bool.false_eq_true, if_false]

end CounterMachine.Library
