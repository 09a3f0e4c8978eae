import CounterMachine.Proofs.Reference

/-!
# Repetition along a trajectory

Programs compute by repeating themselves. A rule that leaves the state as it is fires again and
again until its guard fails, and rounds made of such loops are repeated in turn. This module follows
both at once instead of firing by firing: a self-loop adds its adjustments as often as it fires, and
equal rounds lead from the first machine to the last.

A round that adds one number to a counter does so as often as another number says. If the product
exceeds `maxValue`, there is a round in which the counter passes the limit.
-/

namespace CounterMachine

variable {program : Program} {start machine middle after final : Machine} {rule : Rule}
  {before rest : List Rule} {counters : List Int} {count first second : Nat}

namespace Program

/-- A trajectory with one firing more is a trajectory and a reference step. -/
theorem trajectory_succ_eq_some :
    program.trajectory start (count + 1) = some after ↔
      ∃ machine index, program.trajectory start count = some machine ∧
        program.next machine = .move index after := by
  rw [trajectory]
  cases program.trajectory start count with
  | none => simp
  | some machine =>
      cases moves : program.next machine with
      | halt => simp [moves]
      | overflow tape value => simp [moves]
      | move index next => simp [moves]

theorem trajectory_trans (reached : program.trajectory start first = some middle)
    (continues : program.trajectory middle second = some final) :
    program.trajectory start (first + second) = some final := by
  induction second generalizing final with
  | zero =>
      cases continues
      exact reached
  | succ second ih =>
      obtain ⟨machine, index, earlier, moves⟩ := trajectory_succ_eq_some.1 continues
      exact trajectory_succ_eq_some.2 ⟨machine, index, ih earlier, moves⟩

/-- The selected rule moves the machine unless it overflows. -/
theorem next_of_selects (selects : program.Selects machine before rule rest)
    (bounded : ∀ value ∈ rule.adjust machine.counters, value ≤ maxValue) :
    program.next machine = .move before.length ⟨rule.target, rule.adjust machine.counters⟩ := by
  have noOverflow := firstOverflow?_eq_none.2 bounded
  rw [firstOverflow?_eq_find?, Option.map_eq_none_iff, Rule.adjust] at noOverflow
  simp only [next, firstApplicable?_of_selects selects, noOverflow, Rule.adjust]

end Program

namespace Rule

/-- The counters after a rule has fired a number of times. -/
def repeated (rule : Rule) (count : Nat) (counters : List Int) : List Int :=
  List.zipWith (fun value amount => value + count * amount) counters rule.adjustments

/-- The counters hold all that a number of firings takes. -/
def Supplies (rule : Rule) (count : Nat) (counters : List Int) : Prop :=
  ∀ entry ∈ counters.zip rule.adjustments, 0 ≤ entry.1 + count * entry.2

/-- No counter exceeds `maxValue`, neither before nor after a number of firings. -/
def Contained (rule : Rule) (count : Nat) (counters : List Int) : Prop :=
  ∀ entry ∈ counters.zip rule.adjustments,
    entry.1 ≤ maxValue ∧ entry.1 + count * entry.2 ≤ maxValue

section WrittenOut

variable {source target value amount : Int} {adjustments : List Int}

/-- Guards are checked as the program does it. -/
theorem applies_iff : Applies ⟨source, target, adjustments⟩ machine ↔
    machine.state = source ∧ guardsHold ⟨source, target, adjustments⟩ machine.counters = true :=
  and_congr Iff.rfl guardsHold_eq_true.symm

theorem guardsHold_cons :
    guardsHold ⟨source, target, amount :: adjustments⟩ (value :: counters) =
      ((decide (0 ≤ amount) || decide (-amount ≤ value)) &&
        guardsHold ⟨source, target, adjustments⟩ counters) := rfl

theorem supplies_nil : Supplies ⟨source, target, []⟩ count [] := by
  simp [Supplies]

theorem supplies_cons :
    Supplies ⟨source, target, amount :: adjustments⟩ count (value :: counters) ↔
      0 ≤ value + count * amount ∧ Supplies ⟨source, target, adjustments⟩ count counters := by
  simp only [Supplies, List.zip_cons_cons, List.forall_mem_cons]

theorem contained_nil : Contained ⟨source, target, []⟩ count [] := by
  simp [Contained]

theorem contained_cons :
    Contained ⟨source, target, amount :: adjustments⟩ count (value :: counters) ↔
      (value ≤ maxValue ∧ value + count * amount ≤ maxValue) ∧
        Contained ⟨source, target, adjustments⟩ count counters := by
  simp only [Contained, List.zip_cons_cons, List.forall_mem_cons]

end WrittenOut

theorem repeated_zero (width : counters.length = rule.width) :
    rule.repeated 0 counters = counters := by
  have unchanged : Function.uncurry (fun value amount : Int => value + (0 : Nat) * amount) =
      Prod.fst := by
    funext ⟨value, amount⟩
    simp
  rw [repeated, ← List.map_uncurry_zip_eq_zipWith, unchanged]
  exact List.map_fst_zip (Nat.le_of_eq width)

theorem adjust_repeated (rule : Rule) (count : Nat) (counters : List Int) :
    rule.adjust (rule.repeated count counters) = rule.repeated (count + 1) counters := by
  obtain ⟨source, target, adjustments⟩ := rule
  simp only [adjust, repeated]
  induction counters generalizing adjustments with
  | nil => rfl
  | cons value counters ih =>
      cases adjustments with
      | nil => rfl
      | cons amount adjustments =>
          simp only [List.zipWith_cons_cons, ih]
          rw [Int.natCast_succ, Int.add_mul, Int.one_mul, Int.add_assoc]

/-- The counters are repeated tape by tape. -/
theorem mem_zip_repeated {entry : Int × Int}
    (member : entry ∈ (rule.repeated count counters).zip rule.adjustments) :
    ∃ value, (value, entry.2) ∈ counters.zip rule.adjustments ∧
      entry.1 = value + count * entry.2 := by
  obtain ⟨source, target, adjustments⟩ := rule
  simp only [repeated] at member ⊢
  induction counters generalizing adjustments with
  | nil => simp at member
  | cons value counters ih =>
      cases adjustments with
      | nil => simp at member
      | cons amount adjustments =>
          simp only [List.zipWith_cons_cons, List.zip_cons_cons, List.mem_cons] at member ⊢
          rcases member with rfl | member
          · exact ⟨value, .inl rfl, rfl⟩
          · obtain ⟨other, inside, same⟩ := ih adjustments member
            exact ⟨other, .inr inside, same⟩

theorem exists_of_mem_repeated {value : Int} (member : value ∈ rule.repeated count counters) :
    ∃ entry ∈ counters.zip rule.adjustments, value = entry.1 + count * entry.2 := by
  rw [repeated, ← List.map_uncurry_zip_eq_zipWith, List.mem_map] at member
  obtain ⟨entry, inside, rfl⟩ := member
  exact ⟨entry, inside, rfl⟩

/-- Counters that last for some firings let each of them through. -/
theorem Supplies.guards {number : Nat} (supplies : rule.Supplies count counters)
    (below : number < count) :
    ∀ entry ∈ (rule.repeated number counters).zip rule.adjustments,
      entry.2 < 0 → -entry.2 ≤ entry.1 := by
  intro entry member negative
  obtain ⟨value, inside, same⟩ := mem_zip_repeated member
  have enough := supplies _ inside
  have later : (count : Int) * entry.2 ≤ (number + 1) * entry.2 :=
    Int.mul_le_mul_of_nonpos_right (by omega) (by omega)
  rw [Int.add_mul, Int.one_mul] at later
  simp only at enough
  omega

/-- A counter moves in one direction, so it is largest at one of the two ends. -/
theorem Contained.bounded {number : Nat} (contained : rule.Contained count counters)
    (le : number ≤ count) : ∀ value ∈ rule.repeated number counters, value ≤ maxValue := by
  intro value member
  obtain ⟨entry, inside, rfl⟩ := exists_of_mem_repeated member
  obtain ⟨initial, last⟩ := contained entry inside
  by_cases rises : 0 ≤ entry.2
  · have : (number : Int) * entry.2 ≤ count * entry.2 :=
      Int.mul_le_mul_of_nonneg_right (by omega) rises
    omega
  · have : (number : Int) * entry.2 ≤ 0 * entry.2 :=
      Int.mul_le_mul_of_nonpos_right (by omega) (by omega)
    omega

end Rule

namespace Program

/-- The rule at a position is selected where no rule before it applies and its guards hold. -/
theorem selects_repeated {number : Nat} (split : program.rules = before ++ rule :: rest)
    (supplies : rule.Supplies count counters) (below : number < count)
    (skipped : ∀ other ∈ before, ¬ other.Applies ⟨rule.source, rule.repeated number counters⟩) :
    program.Selects ⟨rule.source, rule.repeated number counters⟩ before rule rest :=
  ⟨split, skipped, rfl, supplies.guards below⟩

section Once

variable (split : program.rules = before ++ rule :: rest) (width : counters.length = rule.width)
  (supplies : rule.Supplies 1 counters)
  (skipped : ∀ other ∈ before, ¬ other.Applies ⟨rule.source, counters⟩)
include split width supplies skipped

theorem selects_once : program.Selects ⟨rule.source, counters⟩ before rule rest := by
  have selects := @selects_repeated program rule before rest counters 1 0 split supplies
    Nat.one_pos
  rw [Rule.repeated_zero width] at selects
  exact selects skipped

/-- One firing. -/
theorem trajectory_once (contained : rule.Contained 1 counters) :
    program.trajectory ⟨rule.source, counters⟩ 1 =
      some ⟨rule.target, rule.repeated 1 counters⟩ := by
  have adjusted := rule.adjust_repeated 0 counters
  rw [Rule.repeated_zero width] at adjusted
  have moves := next_of_selects (selects_once split width supplies skipped) (by
    rw [adjusted]
    exact contained.bounded (Nat.le_refl 1))
  rw [adjusted] at moves
  exact trajectory_succ_eq_some.2 ⟨_, _, rfl, moves⟩

/-- An overflow of tape 0, whatever the rule does to the others. -/
theorem next_of_overflow_first {value : Int} {others : List Int}
    (adjusted : rule.adjust counters = value :: others) (above : maxValue < value) :
    program.next ⟨rule.source, counters⟩ = .overflow 0 value := by
  have selects := selects_once split width supplies skipped
  rw [Rule.adjust] at adjusted
  simp only [next, firstApplicable?_of_selects selects, adjusted, List.zipIdx_cons,
    List.find?_cons, above, decide_true]

end Once

/-- A rule that leaves the state as it is fires a number of times in a row if no rule before it
applies meanwhile and its counters stay in range. -/
theorem trajectory_repeated (split : program.rules = before ++ rule :: rest)
    (loop : rule.target = rule.source) (width : counters.length = rule.width)
    (supplies : rule.Supplies count counters) (contained : rule.Contained count counters)
    (skipped : ∀ number < count, ∀ other ∈ before,
      ¬ other.Applies ⟨rule.source, rule.repeated number counters⟩) :
    program.trajectory ⟨rule.source, counters⟩ count =
      some ⟨rule.source, rule.repeated count counters⟩ := by
  suffices all : ∀ number ≤ count, program.trajectory ⟨rule.source, counters⟩ number =
      some ⟨rule.source, rule.repeated number counters⟩ from all count (Nat.le_refl count)
  intro number le
  induction number with
  | zero => rw [Rule.repeated_zero width, trajectory]
  | succ number ih =>
      have selects := selects_repeated split supplies le (skipped number le)
      have moves := next_of_selects selects (by
        rw [Rule.adjust_repeated]
        exact contained.bounded le)
      rw [Rule.adjust_repeated, loop] at moves
      exact trajectory_succ_eq_some.2 ⟨_, _, ih (Nat.le_of_succ_le le), moves⟩

end Program

namespace Program

variable {machines : Nat → Machine} {length rounds x y : Nat}

/-- Rounds of equal length, one after another. -/
theorem trajectory_rounds (round : ∀ number < rounds,
      program.trajectory (machines number) length = some (machines (number + 1))) :
    program.trajectory (machines 0) (rounds * length) = some (machines rounds) := by
  induction rounds with
  | zero => rw [Nat.zero_mul, trajectory]
  | succ rounds ih =>
      rw [Nat.succ_mul]
      exact trajectory_trans (ih fun number below => round number (Nat.lt_succ_of_lt below))
        (round rounds (Nat.lt_succ_self rounds))

/-- The round in which a sum of equal summands passes the limit. -/
theorem exists_last_round (large : maxValue < ((x * y : Nat) : Int)) :
    ∃ number < y, ((number * x : Nat) : Int) ≤ maxValue ∧
      maxValue < (((number + 1) * x : Nat) : Int) := by
  obtain ⟨limit, same⟩ : ∃ limit : Nat, maxValue = limit := ⟨2147483647, rfl⟩
  simp only [same, Int.ofNat_lt, Int.ofNat_le] at large ⊢
  have present : 0 < x := by
    apply Nat.pos_of_ne_zero
    rintro rfl
    rw [Nat.zero_mul] at large
    exact Nat.not_lt_zero _ large
  refine ⟨limit / x, Nat.div_lt_of_lt_mul large, Nat.div_mul_le_self limit x, ?_⟩
  rw [Nat.mul_comm]
  exact Nat.lt_mul_div_succ limit present

/-- Rounds that each add `x` to tape 0 meet an overflow if `y` of them would add too much: the
rounds before the sum passes the limit are complete, and the one in which it does breaks off. -/
theorem exists_overflow_of_rounds (large : maxValue < ((x * y : Nat) : Int))
    (round : ∀ number, number + 1 < y → (((number + 1) * x : Nat) : Int) ≤ maxValue →
      program.trajectory (machines number) length = some (machines (number + 1)))
    (breaks : ∀ number < y, ((number * x : Nat) : Int) ≤ maxValue →
      maxValue < (((number + 1) * x : Nat) : Int) →
      ∃ count < length, ∃ last, program.trajectory (machines number) count = some last ∧
        program.next last = .overflow 0 (maxValue + 1)) :
    ∃ count < y * length, ∃ last, program.trajectory (machines 0) count = some last ∧
      program.next last = .overflow 0 (maxValue + 1) := by
  obtain ⟨rounds, below, fits, passes⟩ := exists_last_round large
  obtain ⟨count, short, last, reached, overflowed⟩ := breaks rounds below fits passes
  have complete : program.trajectory (machines 0) (rounds * length) = some (machines rounds) := by
    apply trajectory_rounds
    intro number earlier
    refine round number (by omega) ?_
    have fewer : (number + 1) * x ≤ rounds * x := Nat.mul_le_mul_right x earlier
    omega
  refine ⟨rounds * length + count, ?_, last, trajectory_trans complete reached, overflowed⟩
  calc rounds * length + count < (rounds + 1) * length := by
        rw [Nat.succ_mul]
        omega
    _ ≤ y * length := Nat.mul_le_mul_right length below

end Program

end CounterMachine
