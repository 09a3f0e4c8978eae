import CounterMachine.Acceptance
import CounterMachine.Proofs.Numeral

/-!
# Every defect once, in order

A program is inspected rule by rule, and everything that is wrong with a rule is listed: its width
first, then its two states, then its adjustments by tape. This module says without any list what is
wrong with a program and which of two defects comes first. The list holds just that, each defect
once, in that order, and programs put one after the other have their defects one after the other.

A defect is put in words before it is reported, which fails if it shows a number of too many digits.
A program of which everything wrong can be put in words is refused with its least defect, any other
with none. Whatever a defect shows stands in the program or machine, so short numbers are enough.
-/

namespace CounterMachine

/-- What is wrong with one place of a rule of a program with the given number of tapes. -/
inductive DraftRule.Flawed (tapes : Int) (rule : DraftRule) : RuleDefect → Prop where
  | width (differs : (rule.adjustments.length : Int) ≠ tapes) :
      Flawed tapes rule (.width tapes rule.adjustments.length)
  | source (noState : ∀ state : Nat, rule.source ≠ .integer state) :
      Flawed tapes rule (.source rule.source)
  | target (noState : ∀ state : Nat, rule.target ≠ .integer state) :
      Flawed tapes rule (.target rule.target)
  | adjustmentNotInteger {tape : Nat} {value : Scalar}
      (placed : rule.adjustments[tape]? = some value)
      (noInteger : ∀ number : Int, value ≠ .integer number) :
      Flawed tapes rule (.adjustmentNotInteger tape value)
  | adjustmentOutOfRange {tape : Nat} {number : Int}
      (placed : rule.adjustments[tape]? = some (.integer number))
      (outside : number < minValue ∨ maxValue < number) :
      Flawed tapes rule (.adjustmentOutOfRange tape number)

/-- What is wrong with a program. Without a tape count there is nothing that its rules could be
measured by. -/
inductive DraftProgram.Flawed (program : DraftProgram) : Defect → Prop where
  | tapeCount (noCount : ∀ tapes : Nat, program.tapes ≠ .integer tapes) :
      Flawed program (.tapeCount program.tapes)
  | rule {tapes index : Nat} {rule : DraftRule} {defect : RuleDefect}
      (counted : program.tapes = .integer tapes) (placed : program.rules[index]? = some rule)
      (flawed : rule.Flawed tapes defect) : Flawed program (.rule index defect)

/-- Everything that is wrong with a program can be put in words. -/
def DraftProgram.Reportable (program : DraftProgram) : Prop :=
  ∀ defect, program.Flawed defect → defect.isShowable = true

def DraftRule.numbers (rule : DraftRule) : List Int :=
  (rule.source :: rule.target :: rule.adjustments).filterMap Scalar.toInt?

def DraftProgram.numbers (program : DraftProgram) : List Int :=
  program.tapes.toInt?.toList ++ program.rules.flatMap DraftRule.numbers

def DraftMachine.numbers (machine : DraftMachine) : List Int :=
  (machine.state :: machine.counters).filterMap Scalar.toInt?

theorem Rule.mem_numbers_toDraft {rule : Rule} {number : Int} :
    number ∈ rule.toDraft.numbers ↔
      number = rule.source ∨ number = rule.target ∨ number ∈ rule.adjustments := by
  simp [toDraft, DraftRule.numbers, Scalar.toInt?]

theorem Program.mem_numbers_toDraft {program : Program} {number : Int} :
    number ∈ program.toDraft.numbers ↔
      number = program.tapes ∨ ∃ rule ∈ program.rules, number ∈ rule.toDraft.numbers := by
  simp [toDraft, DraftProgram.numbers, Scalar.toInt?]

theorem Machine.mem_numbers_toDraft {machine : Machine} {number : Int} :
    number ∈ machine.toDraft.numbers ↔ number = machine.state ∨ number ∈ machine.counters := by
  simp [toDraft, DraftMachine.numbers, Scalar.toInt?]

theorem isShowable_of_bounded {value : Int} (bounds : minValue ≤ value ∧ value ≤ maxValue) :
    Text.Numeral.isShowable value = true := by
  have small : value.natAbs < 10 ^ 10 := by
    unfold minValue maxValue at bounds
    omega
  rw [Text.Numeral.isShowable_iff_lt]
  exact small.trans_le (Nat.pow_le_pow_right (by decide) (by decide))

/-- A number that is not negative and too long to be shown is too large for a tape. -/
theorem maxValue_lt_of_not_showable {value : Int} (nonneg : 0 ≤ value)
    (hidden : Text.Numeral.isShowable value = false) : maxValue < value := by
  rw [← Int.not_le]
  intro small
  have bounds : minValue ≤ value ∧ value ≤ maxValue := ⟨Int.le_trans (by decide) nonneg, small⟩
  simp [isShowable_of_bounded bounds] at hidden

/-- Where in its rule a defect lies: the width as a whole, then the states, then tape by tape. -/
def RuleDefect.place : RuleDefect → Nat
  | .width _ _ => 0
  | .source _ => 1
  | .target _ => 2
  | .adjustmentNotInteger tape _ | .adjustmentOutOfRange tape _ => tape + 3

/-- The order of defects: by rule, and within a rule by place. -/
inductive Defect.Before : Defect → Defect → Prop where
  | earlierRule {index other : Nat} {first second : RuleDefect} (less : index < other) :
      Before (.rule index first) (.rule other second)
  | sameRule {index : Nat} {first second : RuleDefect} (less : first.place < second.place) :
      Before (.rule index first) (.rule index second)

theorem Defect.Before.asymm {first second : Defect} (before : first.Before second) :
    ¬ second.Before first := by
  intro after
  cases before with
  | earlierRule less => cases after <;> omega
  | sameRule less => cases after <;> omega

theorem Defect.Before.ne {first second : Defect} (before : first.Before second) :
    first ≠ second := by
  rintro rfl
  exact before.asymm before

/-- The defect in a program to which rules have been added in front. -/
def Defect.shift (count : Nat) : Defect → Defect
  | .rule index defect => .rule (index + count) defect
  | defect => defect

section OneRule

variable {tapes : Int} {rule : DraftRule} {defect : RuleDefect}

/-- A control state is a natural number. -/
theorem Scalar.isState_eq_false {value : Scalar} :
    value.isState = false ↔ ∀ state : Nat, value ≠ .integer state := by
  cases value with
  | integer number =>
      simp only [isState, decide_eq_false_iff_not, ne_eq, integer.injEq]
      constructor
      · intro negative state same
        omega
      · intro different nonneg
        exact different number.toNat (by omega)
  | truth value | absent | floating value | text value | blank => simp [isState]

theorem adjustmentDefect?_eq_some {tape : Nat} {amount : Scalar} :
    adjustmentDefect? tape amount = some defect ↔
      ((∀ number : Int, amount ≠ .integer number) ∧
        defect = .adjustmentNotInteger tape amount) ∨
      ∃ number, amount = .integer number ∧ (number < minValue ∨ maxValue < number) ∧
        defect = .adjustmentOutOfRange tape number := by
  cases amount with
  | integer number =>
      simp only [adjustmentDefect?, Scalar.toInt?, Option.ite_none_right_eq_some, Option.some.injEq]
      constructor
      · rintro ⟨outside, rfl⟩
        exact .inr ⟨number, rfl, outside, rfl⟩
      · rintro (⟨noInteger, -⟩ | ⟨other, same, outside, rfl⟩)
        · exact absurd rfl (noInteger number)
        · cases same
          exact ⟨outside, rfl⟩
  | truth value | absent | floating value | text value | blank =>
      simp [adjustmentDefect?, Scalar.toInt?, eq_comm]

/-- The defects of a rule are what is wrong with it. -/
theorem DraftRule.mem_defects : defect ∈ rule.defects tapes ↔ rule.Flawed tapes defect := by
  simp only [defects, List.mem_append, List.mem_filterMap, List.mem_ite_nil_left,
    List.mem_singleton, Bool.not_eq_true, Scalar.isState_eq_false,
    adjustmentDefect?_eq_some]
  constructor
  · rintro (((⟨differs, rfl⟩ | ⟨noState, rfl⟩) | ⟨noState, rfl⟩) | ⟨⟨amount, tape⟩, placed, wrong⟩)
    · exact .width differs
    · exact .source noState
    · exact .target noState
    · have placed := List.mem_zipIdx_iff_getElem?.1 placed
      rcases wrong with ⟨noInteger, rfl⟩ | ⟨number, rfl, outside, rfl⟩
      · exact .adjustmentNotInteger placed noInteger
      · exact .adjustmentOutOfRange placed outside
  · intro flawed
    cases flawed with
    | width differs => exact .inl (.inl (.inl ⟨differs, rfl⟩))
    | source noState => exact .inl (.inl (.inr ⟨noState, rfl⟩))
    | target noState => exact .inl (.inr ⟨noState, rfl⟩)
    | @adjustmentNotInteger tape value placed noInteger =>
        exact .inr ⟨(value, tape), List.mem_zipIdx_iff_getElem?.2 placed, .inl ⟨noInteger, rfl⟩⟩
    | @adjustmentOutOfRange tape number placed outside =>
        exact .inr ⟨(.integer number, tape), List.mem_zipIdx_iff_getElem?.2 placed,
          .inr ⟨number, rfl, outside, rfl⟩⟩

theorem adjustmentDefect?_place {tape : Nat} {amount : Scalar}
    (found : adjustmentDefect? tape amount = some defect) : defect.place = tape + 3 := by
  rcases adjustmentDefect?_eq_some.1 found with ⟨-, rfl⟩ | ⟨number, -, -, rfl⟩
  · rfl
  · rfl

/-- Adjustments are inspected from the lowest tape on. -/
theorem pairwise_adjustmentDefects (first : Nat) (amounts : List Scalar) :
    ((amounts.zipIdx first).filterMap fun entry => adjustmentDefect? entry.2 entry.1).Pairwise
      (fun left right => left.place < right.place) := by
  rw [List.pairwise_filterMap]
  have ascending : (amounts.zipIdx first).Pairwise fun left right => left.2 < right.2 := by
    rw [← List.pairwise_map, List.zipIdx_map_snd]
    exact List.pairwise_lt_range'
  refine ascending.imp ?_
  intro left right less first found second later
  rw [adjustmentDefect?_place found, adjustmentDefect?_place later]
  omega

/-- The defects of a rule are listed from its first place to its last. -/
theorem DraftRule.pairwise_defects (tapes : Int) (rule : DraftRule) :
    (rule.defects tapes).Pairwise fun left right => left.place < right.place := by
  have single : ∀ (fine : Prop) [Decidable fine] (defect : RuleDefect),
      (if fine then [] else [defect]).Pairwise fun left right => left.place < right.place := by
    intro fine _ defect
    split
    next => exact .nil
    next => exact List.pairwise_singleton _ _
  have amounts : ∀ defect ∈ rule.adjustments.zipIdx.filterMap
      (fun entry => adjustmentDefect? entry.2 entry.1), 3 ≤ defect.place := by
    intro defect member
    obtain ⟨entry, -, found⟩ := List.mem_filterMap.1 member
    rw [adjustmentDefect?_place found]
    omega
  simp only [defects, List.pairwise_append, single, pairwise_adjustmentDefects, List.mem_append,
    List.mem_ite_nil_left, List.mem_singleton, true_and]
  refine ⟨⟨?_, ?_⟩, ?_⟩
  · rintro left ⟨-, rfl⟩ right ⟨-, rfl⟩
    exact Nat.zero_lt_one
  · rintro left (⟨-, rfl⟩ | ⟨-, rfl⟩) right ⟨-, rfl⟩
    · exact Nat.zero_lt_two
    · exact Nat.one_lt_two
  · rintro left ((⟨-, rfl⟩ | ⟨-, rfl⟩) | ⟨-, rfl⟩) right member
    · exact Nat.lt_of_lt_of_le (by decide : 0 < 3) (amounts right member)
    · exact Nat.lt_of_lt_of_le (by decide : 1 < 3) (amounts right member)
    · exact Nat.lt_of_lt_of_le (by decide : 2 < 3) (amounts right member)

end OneRule

section Rules

variable {tapes : Int} {first : Nat} {rules others : List DraftRule} {defect : Defect}

theorem mem_rulesDefects :
    defect ∈ rulesDefects tapes first rules ↔
      ∃ offset rule flaw, rules[offset]? = some rule ∧ rule.Flawed tapes flaw ∧
        defect = .rule (first + offset) flaw := by
  induction rules generalizing first with
  | nil => simp [rulesDefects]
  | cons head rest ih =>
      simp only [rulesDefects, List.mem_append, List.mem_map, DraftRule.mem_defects, ih]
      constructor
      · rintro (⟨flaw, flawed, rfl⟩ | ⟨offset, rule, flaw, placed, flawed, rfl⟩)
        · exact ⟨0, head, flaw, rfl, flawed, rfl⟩
        · exact ⟨offset + 1, rule, flaw, placed, flawed, by rw [Nat.add_right_comm, Nat.add_assoc]⟩
      · rintro ⟨offset, rule, flaw, placed, flawed, rfl⟩
        cases offset with
        | zero =>
            cases placed
            exact .inl ⟨flaw, flawed, rfl⟩
        | succ offset =>
            exact .inr
              ⟨offset, rule, flaw, placed, flawed, by rw [Nat.add_right_comm, Nat.add_assoc]⟩

/-- Every rule has its defects before those of the rules after it. -/
theorem pairwise_rulesDefects (tapes : Int) (first : Nat) (rules : List DraftRule) :
    (rulesDefects tapes first rules).Pairwise Defect.Before := by
  induction rules generalizing first with
  | nil => exact .nil
  | cons rule rest ih =>
      rw [rulesDefects, List.pairwise_append]
      refine ⟨?_, ih (first + 1), ?_⟩
      · rw [List.pairwise_map]
        exact (rule.pairwise_defects tapes).imp fun less => .sameRule less
      · intro left leftMember right rightMember
        obtain ⟨flaw, -, rfl⟩ := List.mem_map.1 leftMember
        obtain ⟨offset, other, later, -, -, rfl⟩ := mem_rulesDefects.1 rightMember
        exact .earlierRule (by omega)

theorem rulesDefects_append :
    rulesDefects tapes first (rules ++ others) =
      rulesDefects tapes first rules ++ rulesDefects tapes (first + rules.length) others := by
  induction rules generalizing first with
  | nil => rfl
  | cons rule rest ih =>
      rw [List.cons_append, rulesDefects, rulesDefects, ih, List.append_assoc, List.length_cons,
        Nat.add_assoc, Nat.add_comm 1]

/-- Counting rules from another number shifts their defects. -/
theorem rulesDefects_add (count : Nat) :
    rulesDefects tapes (first + count) rules =
      (rulesDefects tapes first rules).map (Defect.shift count) := by
  induction rules generalizing first with
  | nil => rfl
  | cons rule rest ih =>
      rw [rulesDefects, rulesDefects, List.map_append, ← ih, List.map_map, Nat.add_right_comm]
      rfl

end Rules

namespace DraftProgram

variable {program : DraftProgram} {defect : Defect}

theorem defects_of_count {tapes : Nat} (counted : program.tapes = .integer tapes) :
    program.defects = rulesDefects tapes 0 program.rules := by
  have nonneg : ¬ (tapes : Int) < 0 := by omega
  simp only [defects, counted, if_neg nonneg]

theorem defects_of_no_count (noCount : ∀ tapes : Nat, program.tapes ≠ .integer tapes) :
    program.defects = [.tapeCount program.tapes] := by
  rw [defects]
  cases given : program.tapes with
  | integer tapes =>
      have negative : tapes < 0 := by
        rw [← Int.not_le]
        intro nonneg
        exact noCount tapes.toNat (by rw [given, Int.toNat_of_nonneg nonneg])
      simp only [if_pos negative]
  | truth value | absent | floating value | text value | blank => rfl

/-- The list holds what is wrong with the program and nothing else. -/
theorem mem_defects : defect ∈ program.defects ↔ program.Flawed defect := by
  by_cases count : ∃ tapes : Nat, program.tapes = .integer tapes
  · obtain ⟨tapes, counted⟩ := count
    rw [defects_of_count counted, mem_rulesDefects]
    constructor
    · rintro ⟨offset, rule, flaw, placed, flawed, rfl⟩
      rw [Nat.zero_add]
      exact .rule counted placed flawed
    · intro flawed
      cases flawed with
      | tapeCount noCount => exact absurd counted (noCount tapes)
      | @rule others index rule flaw same placed flawed =>
          cases counted.symm.trans same
          exact ⟨index, rule, flaw, placed, flawed, by rw [Nat.zero_add]⟩
  · have noCount := not_exists.1 count
    rw [defects_of_no_count noCount, List.mem_singleton]
    constructor
    · rintro rfl
      exact .tapeCount noCount
    · intro flawed
      cases flawed with
      | tapeCount => rfl
      | rule counted => exact absurd counted (noCount _)

theorem pairwise_defects (program : DraftProgram) : program.defects.Pairwise Defect.Before := by
  by_cases count : ∃ tapes : Nat, program.tapes = .integer tapes
  · obtain ⟨tapes, counted⟩ := count
    rw [defects_of_count counted]
    exact pairwise_rulesDefects tapes 0 program.rules
  · rw [defects_of_no_count (not_exists.1 count)]
    exact List.pairwise_singleton _ _

/-- Inspection lists the defects if everything that is wrong can be put in words. -/
theorem inspect_eq_ok_iff {listed : List Defect} :
    program.inspect = .ok listed ↔ program.Reportable ∧ listed = program.defects := by
  simp only [inspect_eq_ok, Reportable, mem_defects, and_comm]

theorem inspect_eq_error_iff {refusal : Refusal} :
    program.inspect = .error refusal ↔ ¬ program.Reportable ∧ refusal = .unshowable := by
  simp only [Reportable, ← mem_defects, ← List.all_eq_true, inspect]
  split
  next showable => simp [showable]
  next hidden => simp [hidden, eq_comm]

/-- A program that is refused with a defect is refused with its least one. -/
theorem accept_eq_defective :
    program.accept = .error (.defective defect) ↔
      program.Reportable ∧ program.Flawed defect ∧
        ∀ other, program.Flawed other → other = defect ∨ defect.Before other := by
  have ordered := program.pairwise_defects
  simp only [← mem_defects, accept]
  cases inspected : program.inspect with
  | error refusal =>
      obtain ⟨hidden, rfl⟩ := inspect_eq_error_iff.1 inspected
      simp [hidden]
  | ok listed =>
      obtain ⟨reportable, same⟩ := inspect_eq_ok_iff.1 inspected
      rw [← same] at ordered ⊢
      cases listed with
      | nil => simp
      | cons head rest =>
          have least := (List.pairwise_cons.1 ordered).1
          simp only [Except.error.injEq, Refusal.defective.injEq, List.mem_cons, reportable,
            true_and]
          constructor
          · rintro rfl
            exact ⟨.inl rfl, fun other member => member.imp_right (least other)⟩
          · rintro ⟨rfl | later, smallest⟩
            · rfl
            · rcases smallest head (.inl rfl) with same | before
              · exact same
              · exact absurd before (least defect later).asymm

theorem accept_eq_unshowable :
    program.accept = .error .unshowable ↔ ¬ program.Reportable := by
  rw [accept]
  cases inspected : program.inspect with
  | error refusal =>
      obtain ⟨hidden, rfl⟩ := inspect_eq_error_iff.1 inspected
      simp [hidden]
  | ok listed =>
      obtain ⟨reportable, -⟩ := inspect_eq_ok_iff.1 inspected
      cases listed <;> simp [reportable]

/-- The program is accepted if nothing is wrong with it. -/
theorem exists_accept_eq_ok :
    (∃ proper, program.accept = .ok proper) ↔ ∀ defect, ¬ program.Flawed defect := by
  simp only [← mem_defects, ← List.eq_nil_iff_forall_not_mem, accept]
  cases inspected : program.inspect with
  | error refusal =>
      have hidden := (inspect_eq_error_iff.1 inspected).1
      have flawed : program.defects ≠ [] := by
        intro clean
        apply hidden
        intro defect flawed
        rw [← mem_defects, clean] at flawed
        cases flawed
      simp [flawed]
  | ok listed =>
      obtain ⟨-, rfl⟩ := inspect_eq_ok_iff.1 inspected
      cases program.defects with
      | nil => simp
      | cons head rest => simp

/-- What a defect shows stands in the program. -/
theorem Flawed.mem_numbers (flawed : program.Flawed defect) {number : Int}
    (shown : number ∈ defect.numbers) : number ∈ program.numbers := by
  rw [numbers, List.mem_append]
  cases flawed with
  | tapeCount => exact .inl shown
  | @rule tapes index rule flaw counted placed flawed =>
      have member := List.mem_of_getElem? placed
      simp only [List.mem_flatMap, DraftRule.numbers, List.mem_filterMap, List.mem_cons]
      cases flawed with
      | width =>
          rw [counted]
          exact .inl shown
      | source => exact .inr ⟨rule, member, rule.source, .inl rfl, Option.mem_toList.1 shown⟩
      | target =>
          exact .inr ⟨rule, member, rule.target, .inr (.inl rfl), Option.mem_toList.1 shown⟩
      | @adjustmentNotInteger tape value placed =>
          exact .inr ⟨rule, member, value, .inr (.inr (List.mem_of_getElem? placed)),
            Option.mem_toList.1 shown⟩
      | @adjustmentOutOfRange tape other placed =>
          refine .inr ⟨rule, member, _, .inr (.inr (List.mem_of_getElem? placed)), ?_⟩
          rw [List.mem_singleton.1 shown]
          rfl

/-- Where every number of a program can be shown, so can all its defects. -/
theorem reportable_of_showable
    (showable : ∀ number ∈ program.numbers, Text.Numeral.isShowable number = true) :
    program.Reportable := by
  intro defect flawed
  rw [Defect.isShowable, List.all_eq_true]
  exact fun number shown => showable number (flawed.mem_numbers shown)

/-- Where the program has a tape count, a defect names its rule, and a defect of width also what the
width should be and what it is. -/
theorem names_of_mem_defects {tapes : Nat} (counted : program.tapes = .integer tapes)
    (member : defect ∈ program.defects) :
    ∃ index rule flaw, program.rules[index]? = some rule ∧ rule.Flawed tapes flaw ∧
      defect = .rule index flaw ∧ defect.ruleIndex? = some index ∧
      defect.widths? =
        if flaw.place = 0 then some ((tapes : Int), rule.adjustments.length) else none := by
  cases mem_defects.1 member with
  | tapeCount noCount => exact absurd counted (noCount tapes)
  | @rule others index rule flaw same placed flawed =>
      cases counted.symm.trans same
      refine ⟨index, rule, flaw, placed, flawed, rfl, rfl, ?_⟩
      cases flawed with
      | width | source | target | adjustmentNotInteger | adjustmentOutOfRange => rfl

end DraftProgram

namespace DraftMachine

variable {machine : DraftMachine} {tapes : Int}

/-- What a defect of a machine shows stands in the machine, or is the width that it should have. -/
theorem mem_numbers_of_defect? {defect : Defect} (found : machine.defect? tapes = some defect)
    {number : Int} (shown : number ∈ defect.numbers) :
    number = tapes ∨ number ∈ machine.numbers := by
  simp only [numbers, List.mem_filterMap, List.mem_cons]
  rw [defect?] at found
  split at found
  next =>
    cases found
    exact .inl (List.mem_singleton.1 shown)
  next =>
    split at found
    next =>
      cases found
      exact .inr ⟨machine.state, .inl rfl, Option.mem_toList.1 shown⟩
    next =>
      obtain ⟨⟨counter, tape⟩, entry, wrong⟩ := List.exists_of_findSome?_eq_some found
      have member := List.mem_of_getElem? (List.mem_zipIdx_iff_getElem?.1 entry)
      refine .inr ⟨counter, .inr member, ?_⟩
      rw [counterDefect?] at wrong
      split at wrong
      next =>
        cases wrong
        exact Option.mem_toList.1 shown
      next value given =>
        obtain ⟨-, same⟩ := Option.ite_none_right_eq_some.1 wrong
        cases same
        rw [given, List.mem_singleton.1 shown]

/-- A machine whose numbers can all be shown is refused for its defect. -/
theorem exists_defect_of_refused {refusal : Refusal}
    (widthShort : Text.Numeral.isShowable tapes = true)
    (short : ∀ number ∈ machine.numbers, Text.Numeral.isShowable number = true)
    (refused : machine.accept tapes = .error refusal) : ∃ defect, refusal = .defective defect := by
  rw [accept] at refused
  split at refused
  next => cases refused
  next defect found =>
    cases refused
    have showable : defect.isShowable = true := by
      rw [Defect.isShowable, List.all_eq_true]
      intro number shown
      rcases mem_numbers_of_defect? found shown with rfl | member
      · exact widthShort
      · exact short number member
    exact ⟨defect, by rw [Refusal.ofDefect, if_pos showable]⟩

end DraftMachine

/-- Inspection lists every defect once. The list holds all that is wrong with the program and
nothing else, without repetition and in order of rule and place, and each defect names the rule it
lies in. Without a tape count that is the only defect. Rules added at the end have their defects
listed at the end, as if they were inspected alone.

The list is handed over if all of it can be put in words, as it can where no number of the program
has more than `digitLimit` digits; then a program is accepted if nothing is wrong with it, and
refused with its least defect otherwise. One defect that cannot be put in words leaves the program
refused without any. -/
theorem defects_list_every_flaw (program : DraftProgram) :
    (∀ defect, defect ∈ program.defects ↔ program.Flawed defect) ∧
    program.defects.Nodup ∧ program.defects.Pairwise Defect.Before ∧
    (∀ tapes : Nat, program.tapes = .integer tapes → ∀ defect ∈ program.defects,
      ∃ index rule flaw, program.rules[index]? = some rule ∧ rule.Flawed tapes flaw ∧
        defect = .rule index flaw ∧ defect.ruleIndex? = some index ∧
        defect.widths? =
          if flaw.place = 0 then some ((tapes : Int), rule.adjustments.length) else none) ∧
    ((∀ tapes : Nat, program.tapes ≠ .integer tapes) →
      program.defects = [.tapeCount program.tapes]) ∧
    (∀ (tapes : Nat) (others : List DraftRule), program.tapes = .integer tapes →
      (DraftProgram.mk (.integer tapes) (program.rules ++ others)).defects =
        program.defects ++
          (DraftProgram.mk (.integer tapes) others).defects.map
            (Defect.shift program.rules.length)) ∧
    ((∀ number ∈ program.numbers, Text.Numeral.isShowable number = true) → program.Reportable) ∧
    (∀ listed, program.inspect = .ok listed ↔ program.Reportable ∧ listed = program.defects) ∧
    (∀ refusal, program.inspect = .error refusal ↔
      ¬ program.Reportable ∧ refusal = .unshowable) ∧
    ((∃ proper, program.accept = .ok proper) ↔ ∀ defect, ¬ program.Flawed defect) ∧
    (∀ defect, program.accept = .error (.defective defect) ↔
      program.Reportable ∧ program.Flawed defect ∧
        ∀ other, program.Flawed other → other = defect ∨ defect.Before other) ∧
    (program.accept = .error .unshowable ↔ ¬ program.Reportable) := by
  refine ⟨fun _ => DraftProgram.mem_defects, ?_, program.pairwise_defects,
    fun _ counted _ => DraftProgram.names_of_mem_defects counted,
    DraftProgram.defects_of_no_count, ?_, DraftProgram.reportable_of_showable,
    fun _ => DraftProgram.inspect_eq_ok_iff, fun _ => DraftProgram.inspect_eq_error_iff,
    DraftProgram.exists_accept_eq_ok, fun _ => DraftProgram.accept_eq_defective,
    DraftProgram.accept_eq_unshowable⟩
  · exact program.pairwise_defects.imp Defect.Before.ne
  · intro tapes others counted
    have whole : (DraftProgram.mk (.integer tapes) (program.rules ++ others)).defects =
        rulesDefects tapes 0 (program.rules ++ others) := DraftProgram.defects_of_count rfl
    have added : (DraftProgram.mk (.integer tapes) others).defects =
        rulesDefects tapes 0 others := DraftProgram.defects_of_count rfl
    rw [whole, added, DraftProgram.defects_of_count counted, rulesDefects_append, rulesDefects_add]

/-- Two rules of a program of two tapes, the first with a truth value for its target and one tape
short, the second with a text for its source, a negative target, an adjustment without a value and
one that is too large; and the same rules under a tape count that is a truth value. -/
theorem defects_list_every_flaw_mixed :
    let short : DraftRule := ⟨.integer 0, .truth true, [.integer 1]⟩
    let broken : DraftRule := ⟨.text "x", .integer (-1), [.absent, .integer 2147483648]⟩
    let program : DraftProgram := ⟨.integer 2, [short, broken]⟩
    program.defects =
        [.rule 0 (.width 2 1), .rule 0 (.target (.truth true)), .rule 1 (.source (.text "x")),
          .rule 1 (.target (.integer (-1))), .rule 1 (.adjustmentNotInteger 0 .absent),
          .rule 1 (.adjustmentOutOfRange 1 2147483648)] ∧
      program.Flawed (.rule 0 (.width 2 1)) ∧
      program.inspect = .ok program.defects ∧
      program.accept = .error (.defective (.rule 0 (.width 2 1))) ∧
      (DraftProgram.mk (.integer 2) ([short] ++ [broken])).defects =
        (DraftProgram.mk (.integer 2) [short]).defects ++
          (DraftProgram.mk (.integer 2) [broken]).defects.map (Defect.shift 1) ∧
      (DraftProgram.mk (.truth true) [short, broken]).defects = [.tapeCount (.truth true)] := by
  intro short broken program
  obtain ⟨mem, -, -, -, -, -, showable, inspected, -⟩ := defects_list_every_flaw program
  obtain ⟨-, -, -, -, -, append, -⟩ :=
    defects_list_every_flaw (DraftProgram.mk (.integer 2) [short])
  obtain ⟨-, -, -, -, noCount, -⟩ :=
    defects_list_every_flaw (DraftProgram.mk (.truth true) [short, broken])
  have reportable : program.Reportable := showable (by decide)
  refine ⟨by decide, (mem _).1 (by decide), (inspected _).2 ⟨reportable, rfl⟩, by decide,
    append 2 [broken] rfl, noCount ?_⟩
  intro tapes same
  cases same

/-- An adjustment of one digit more than can be shown is wrong, and nothing is reported. -/
theorem defects_unreported_at_many_digits :
    let large : Int := ((10 ^ 4300 : Nat) : Int)
    let program : DraftProgram := ⟨.integer 1, [⟨.integer 0, .integer 0, [.integer large]⟩]⟩
    program.Flawed (.rule 0 (.adjustmentOutOfRange 0 large)) ∧
      program.inspect = .error .unshowable ∧ program.accept = .error .unshowable := by
  intro large program
  have hidden : Text.Numeral.isShowable large = false :=
    Text.Numeral.isShowable_pow 4300 (Nat.le_refl 4300)
  have outside : maxValue < large := maxValue_lt_of_not_showable (Int.natCast_nonneg _) hidden
  have counted : program.tapes = .integer (1 : Nat) := rfl
  have flawed : program.Flawed (.rule 0 (.adjustmentOutOfRange 0 large)) :=
    .rule counted rfl (.adjustmentOutOfRange rfl (.inr outside))
  have unreportable : ¬ program.Reportable := by
    intro reportable
    have shown := reportable _ flawed
    simp [Defect.isShowable, Defect.numbers, RuleDefect.numbers, hidden] at shown
  exact ⟨flawed, DraftProgram.inspect_eq_error_iff.2 ⟨unreportable, rfl⟩,
    DraftProgram.accept_eq_unshowable.2 unreportable⟩

end CounterMachine
