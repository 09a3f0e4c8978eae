import CounterMachine.Defect

/-!
# What is accepted

Checking a draft hands over exactly the well-formed programs and the machines that fit: a draft is
accepted as a program if and only if it is that program, written with integers throughout, and the
program is well formed. The same holds for machines. So nothing that is not an integer passes the
check, and nothing that passes is changed by it.
-/

namespace CounterMachine

@[simp] theorem Scalar.isState_integer (value : Int) :
    (Scalar.integer value).isState = true ↔ 0 ≤ value := by
  simp [isState]

/-- A control state is an integer. -/
theorem Scalar.integer_toInt_of_isState {value : Scalar} (state : value.isState = true) :
    Scalar.integer value.toInt = value := by
  cases value with
  | integer value => rfl
  | truth value | absent | floating value | text value | blank => simp [isState] at state

/-- Being an integer between two bounds. -/
def Scalar.Within (low high : Int) (scalar : Scalar) : Prop :=
  ∃ value, scalar = .integer value ∧ low ≤ value ∧ value ≤ high

section Within

variable {low high : Int} {values : List Scalar} {numbers : List Int}

/-- A list of integers is its own reading. -/
theorem map_integer_toInt (within : ∀ value ∈ values, value.Within low high) :
    (values.map Scalar.toInt).map Scalar.integer = values := by
  induction values with
  | nil => rfl
  | cons value rest ih =>
      obtain ⟨number, rfl, -⟩ := within value List.mem_cons_self
      rw [List.map_cons, List.map_cons, ih fun other member =>
        within other (List.mem_cons_of_mem _ member), Scalar.toInt_integer]

theorem bounded_map_toInt (within : ∀ value ∈ values, value.Within low high) :
    ∀ number ∈ values.map Scalar.toInt, low ≤ number ∧ number ≤ high := by
  intro number member
  obtain ⟨value, inside, rfl⟩ := List.mem_map.1 member
  obtain ⟨number, rfl, bounds⟩ := within value inside
  exact bounds

theorem within_map_integer (bounded : ∀ number ∈ numbers, low ≤ number ∧ number ≤ high) :
    ∀ value ∈ numbers.map Scalar.integer, value.Within low high := by
  intro value member
  obtain ⟨number, inside, rfl⟩ := List.mem_map.1 member
  exact ⟨number, rfl, bounded number inside⟩

end Within

/-- An adjustment without defect is an integer within the bounds. -/
theorem adjustmentDefect?_eq_none {tape : Nat} {amount : Scalar} :
    adjustmentDefect? tape amount = none ↔ amount.Within minValue maxValue := by
  cases amount with
  | integer value =>
      simp only [adjustmentDefect?, Scalar.Within, Scalar.toInt?, ite_eq_right_iff, reduceCtorEq,
        imp_false, Scalar.integer.injEq, exists_eq_left']
      omega
  | truth value | absent | floating value | text value | blank =>
      simp [adjustmentDefect?, Scalar.Within, Scalar.toInt?]

/-- A counter without defect is an integer within the bounds. -/
theorem counterDefect?_eq_none {tape : Nat} {counter : Scalar} :
    counterDefect? tape counter = none ↔ counter.Within 0 maxValue := by
  cases counter with
  | integer value =>
      simp only [counterDefect?, Scalar.Within, Scalar.toInt?, ite_eq_right_iff, reduceCtorEq,
        imp_false, Scalar.integer.injEq, exists_eq_left']
      omega
  | truth value | absent | floating value | text value | blank =>
      simp [counterDefect?, Scalar.Within, Scalar.toInt?]

/-- A check of every entry by its position, where the position does not matter. -/
theorem forall_mem_zipIdx {α : Type} {values : List α} (property : α → Prop) :
    (∀ entry ∈ values.zipIdx, property entry.1) ↔ ∀ value ∈ values, property value := by
  constructor
  · intro all value member
    obtain ⟨index, inside, rfl⟩ := List.getElem_of_mem member
    exact all (values[index], index) (by simp [List.mem_zipIdx_iff_getElem?, inside])
  · intro all entry member
    exact all entry.1 (List.mem_of_getElem? (List.mem_zipIdx_iff_getElem?.1 member))

/-- A draft rule has no defects exactly if it is a well-formed rule. -/
theorem DraftRule.defects_eq_nil {tapes : Int} {draft : DraftRule} :
    draft.defects tapes = [] ↔
      draft = draft.toRule.toDraft ∧ draft.toRule.WellFormed tapes := by
  have amounts :
      (draft.adjustments.zipIdx.filterMap fun entry => adjustmentDefect? entry.2 entry.1) = [] ↔
        ∀ amount ∈ draft.adjustments, amount.Within minValue maxValue := by
    simp only [List.filterMap_eq_nil_iff, adjustmentDefect?_eq_none]
    exact forall_mem_zipIdx (Scalar.Within minValue maxValue)
  rw [defects, List.append_eq_nil_iff, List.append_eq_nil_iff, List.append_eq_nil_iff, amounts]
  constructor
  · rintro ⟨⟨⟨width, source⟩, target⟩, bounded⟩
    have width : (draft.adjustments.length : Int) = tapes := by simpa using width
    have source : draft.source.isState = true := by simpa using source
    have target : draft.target.isState = true := by simpa using target
    have same : draft = draft.toRule.toDraft := by
      obtain ⟨sourceState, targetState, adjustments⟩ := draft
      simp only [toRule, Rule.toDraft, DraftRule.mk.injEq]
      exact ⟨(Scalar.integer_toInt_of_isState source).symm,
        (Scalar.integer_toInt_of_isState target).symm, (map_integer_toInt bounded).symm⟩
    refine ⟨same, ?_, ?_, ?_, bounded_map_toInt bounded⟩
    · simpa [toRule, Rule.width] using width
    · rw [same] at source
      exact (Scalar.isState_integer _).1 source
    · rw [same] at target
      exact (Scalar.isState_integer _).1 target
  · rintro ⟨same, wellFormed⟩
    rw [same]
    refine ⟨⟨⟨?_, ?_⟩, ?_⟩, within_map_integer wellFormed.adjustments_bounded⟩
    · simpa [Rule.toDraft, Rule.width] using wellFormed.width_eq
    · simpa [Rule.toDraft] using wellFormed.source_nonneg
    · simpa [Rule.toDraft] using wellFormed.target_nonneg

/-- The position from which rules are counted does not make a defect. -/
theorem rulesDefects_eq_nil {tapes : Int} {index : Nat} {rules : List DraftRule} :
    rulesDefects tapes index rules = [] ↔ ∀ rule ∈ rules, rule.defects tapes = [] := by
  induction rules generalizing index with
  | nil => simp [rulesDefects]
  | cons rule rest ih => simp [rulesDefects, ih]

/-- A draft program has no defects exactly if it is a well-formed program. -/
theorem DraftProgram.defects_eq_nil {draft : DraftProgram} :
    draft.defects = [] ↔ draft = draft.toProgram.toDraft ∧ draft.toProgram.WellFormed := by
  obtain ⟨tapes, rules⟩ := draft
  cases tapes with
  | integer tapes =>
      simp only [defects]
      split
      next negative =>
        simp only [reduceCtorEq, false_iff, not_and]
        intro _ wellFormed
        have nonneg : 0 ≤ tapes := wellFormed.tapes_nonneg
        omega
      next nonneg =>
        rw [rulesDefects_eq_nil]
        constructor
        · intro clean
          have same : rules = (rules.map DraftRule.toRule).map Rule.toDraft := by
            conv => lhs; rw [← List.map_id rules]
            rw [List.map_map]
            exact List.map_congr_left fun rule member =>
              (DraftRule.defects_eq_nil.1 (clean rule member)).1
          refine ⟨?_, by simpa [toProgram] using nonneg, ?_⟩
          · simp only [toProgram, Program.toDraft, Scalar.toInt_integer, ← same]
          · intro rule member
            obtain ⟨draft, inside, rfl⟩ := List.mem_map.1 member
            exact (DraftRule.defects_eq_nil.1 (clean draft inside)).2
        · rintro ⟨same, wellFormed⟩ rule member
          have sameRules : rules = (rules.map DraftRule.toRule).map Rule.toDraft :=
            congrArg DraftProgram.rules same
          rw [sameRules, List.map_map] at member
          obtain ⟨draft, inside, rfl⟩ := List.mem_map.1 member
          refine DraftRule.defects_eq_nil.2 ⟨by simp, ?_⟩
          rw [Function.comp_apply, Rule.toRule_toDraft]
          exact wellFormed.rules_wellFormed _ (List.mem_map_of_mem inside)
  | truth value | absent | floating value | text value | blank =>
      simp [defects, toProgram, Program.toDraft]

/-- A draft machine has no defect exactly if it is a machine that fits. -/
theorem DraftMachine.defect?_eq_none {tapes : Int} {draft : DraftMachine} :
    draft.defect? tapes = none ↔
      draft = draft.toMachine.toDraft ∧ draft.toMachine.Fits tapes := by
  have counters :
      (draft.counters.zipIdx.findSome? fun entry => counterDefect? entry.2 entry.1) = none ↔
        ∀ counter ∈ draft.counters, counter.Within 0 maxValue := by
    simp only [List.findSome?_eq_none_iff, counterDefect?_eq_none]
    exact forall_mem_zipIdx (Scalar.Within 0 maxValue)
  have parts :
      draft.defect? tapes = none ↔
        (draft.counters.length : Int) = tapes ∧ draft.state.isState = true ∧
          ∀ counter ∈ draft.counters, counter.Within 0 maxValue := by
    rw [← counters, defect?]
    by_cases width : (draft.counters.length : Int) = tapes
    · by_cases state : draft.state.isState = true
      · simp [width, state]
      · simp [width, state]
    · simp [width]
  rw [parts]
  constructor
  · rintro ⟨width, state, bounded⟩
    have same : draft = draft.toMachine.toDraft := by
      obtain ⟨machineState, values⟩ := draft
      simp only [toMachine, Machine.toDraft, DraftMachine.mk.injEq]
      exact ⟨(Scalar.integer_toInt_of_isState state).symm, (map_integer_toInt bounded).symm⟩
    refine ⟨same, ?_, ?_, bounded_map_toInt bounded⟩
    · simpa [toMachine, Machine.width] using width
    · rw [same] at state
      exact (Scalar.isState_integer _).1 state
  · rintro ⟨same, fits⟩
    have width : (draft.counters.length : Int) = tapes := by
      simpa [toMachine, Machine.width] using fits.width_eq
    have state : draft.state.isState = true := by
      rw [same]
      exact (Scalar.isState_integer _).2 fits.state_nonneg
    have bounded : ∀ counter ∈ draft.counters, counter.Within 0 maxValue := by
      rw [same]
      exact within_map_integer fits.counters_bounded
    exact ⟨width, state, bounded⟩

/-- Inspection lists the defects if all of them can be put in words. -/
theorem DraftProgram.inspect_eq_ok {draft : DraftProgram} {listed : List Defect} :
    draft.inspect = .ok listed ↔
      listed = draft.defects ∧ ∀ defect ∈ draft.defects, defect.isShowable = true := by
  rw [inspect]
  split
  next showable =>
    constructor
    · intro same
      cases same
      exact ⟨rfl, List.all_eq_true.1 showable⟩
    · rintro ⟨rfl, -⟩
      rfl
  next hidden =>
    simp only [reduceCtorEq, false_iff, not_and]
    exact fun _ all => hidden (List.all_eq_true.2 all)

/-- A draft is accepted as a program exactly if it is that program and well formed. -/
theorem DraftProgram.accept_eq_ok {draft : DraftProgram} {program : Program} :
    draft.accept = .ok program ↔ draft = program.toDraft ∧ program.WellFormed := by
  constructor
  · intro accepted
    simp only [accept] at accepted
    split at accepted
    next => simp at accepted
    next inspected =>
      cases accepted
      exact DraftProgram.defects_eq_nil.1 (inspect_eq_ok.1 inspected).1.symm
    next => simp at accepted
  · rintro ⟨rfl, wellFormed⟩
    have clean : program.toDraft.defects = [] :=
      DraftProgram.defects_eq_nil.2 ⟨by simp, by simpa using wellFormed⟩
    simp [accept, inspect, clean]

/-- A draft is accepted as a machine exactly if it is that machine and fits. -/
theorem DraftMachine.accept_eq_ok {tapes : Int} {draft : DraftMachine} {machine : Machine} :
    draft.accept tapes = .ok machine ↔ draft = machine.toDraft ∧ machine.Fits tapes := by
  constructor
  · intro accepted
    simp only [accept] at accepted
    split at accepted
    next clean =>
      cases accepted
      exact DraftMachine.defect?_eq_none.1 clean
    next => simp at accepted
  · rintro ⟨rfl, fits⟩
    have clean : machine.toDraft.defect? tapes = none :=
      DraftMachine.defect?_eq_none.2 ⟨by simp, by simpa using fits⟩
    simp [accept, clean]

end CounterMachine
