import CounterMachine.Proofs.Token

/-!
# The single-state form simulates its source

One scan of the source program at a machine is one scan of the single-state form at its encoding,
with the same outcome: both halt, both overflow on the same tape, or the work rule of the rule that
fires is the one that fires. After a self-loop the token is on a relay. There exactly one kind of
rule applies, the return rules of that state, and the first of them leads to the encoding of the
machine after the self-loop. It may have been emitted for another self-loop of the same state.
-/

namespace CounterMachine.Elimination

variable {program : Program} {rule : Rule} {machine after : Machine}

/-- For every rule of the single-state form of some rules, whether it returns a relay. -/
def returns (rules : List Rule) : List Bool :=
  rules.flatMap fun rule => false :: if rule.isSelfLoop then [true] else []

/-- Whether the rule at a position of the single-state form returns a relay. -/
def isReturn (program : Program) (position : Nat) : Bool :=
  (returns program.rules)[position]?.getD false

/-- The position of the work rule of the rule at an index. -/
def workPosition (program : Program) (index : Nat) : Nat :=
  (returns (program.rules.take index)).length

/-- Whether the rule at an index is a self-loop. -/
def loopsAt (program : Program) (index : Nat) : Bool :=
  program.rules[index]?.any Rule.isSelfLoop

theorem returns_cons (rule : Rule) (rest : List Rule) :
    returns (rule :: rest) =
      false :: ((if rule.isSelfLoop then [true] else []) ++ returns rest) := by
  simp only [returns, List.flatMap_cons, List.cons_append]

theorem length_flatMap_emitted (program : Program) (rules : List Rule) :
    (rules.flatMap (emitted program)).length = (returns rules).length := by
  induction rules with
  | nil => rfl
  | cons rule rest ih =>
      rw [returns_cons, List.flatMap_cons, List.length_append, ih, emitted]
      split
      next =>
        simp only [List.length_cons, List.length_append, List.length_nil]
        omega
      next =>
        simp only [List.length_cons, List.length_append, List.length_nil]
        omega

section Split

variable {before rest : List Rule} (split : program.rules = before ++ rule :: rest)
include split

theorem workPosition_of_split : workPosition program before.length = (returns before).length := by
  simp [workPosition, split]

theorem returns_of_split :
    returns program.rules =
      returns before ++ false :: ((if rule.isSelfLoop then [true] else []) ++ returns rest) := by
  rw [split, returns, List.flatMap_append]
  exact congrArg (returns before ++ ·) (returns_cons rule rest)

theorem isReturn_workPosition : isReturn program (workPosition program before.length) = false := by
  simp [isReturn, workPosition_of_split split, returns_of_split split]

theorem isReturn_workPosition_succ (loop : rule.isSelfLoop = true) :
    isReturn program (workPosition program before.length + 1) = true := by
  rw [isReturn, workPosition_of_split split, returns_of_split split, if_pos loop]
  simp

theorem rules_singleForm_of_split :
    (singleForm program).rules =
      before.flatMap (emitted program) ++ workRule program rule ::
        ((if rule.isSelfLoop then [returnRule program rule.source] else []) ++
          rest.flatMap (emitted program)) := by
  simp [singleForm, split, emitted]

end Split

/-- A state with a self-loop has a first one. -/
theorem exists_first_loop {loop : Rule} {state : Int} (member : loop ∈ program.rules)
    (isLoop : loop.isSelfLoop = true) (same : loop.source = state) :
    ∃ before first rest, program.rules = before ++ first :: rest ∧ first.isSelfLoop = true ∧
      first.source = state ∧
      ∀ rule ∈ before, ¬ (rule.isSelfLoop = true ∧ rule.source = state) := by
  obtain ⟨first, found⟩ : ∃ first, program.rules.find? (fun rule =>
      rule.isSelfLoop && decide (rule.source = state)) = some first := by
    rw [← Option.isSome_iff_exists, List.find?_isSome]
    exact ⟨loop, member, by simp [isLoop, same]⟩
  obtain ⟨accepted, before, rest, split, skipped⟩ := List.find?_eq_some_iff_append.1 found
  simp only [Bool.and_eq_true, decide_eq_true_eq] at accepted
  refine ⟨before, first, rest, split, accepted.1, accepted.2, ?_⟩
  intro rule inside earlier
  have rejected := skipped rule inside
  simp [earlier.1, earlier.2] at rejected

section Applies

variable (wellFormed : program.WellFormed) (fits : machine.Fits program.tapes)
include wellFormed fits

theorem applies_workRule_encoded (member : rule ∈ program.rules) :
    (workRule program rule).Applies (encoded program machine) ↔ rule.Applies machine := by
  have source : rule.source ∈ program.states := Program.source_mem_states member
  have width : machine.counters.length = rule.adjustments.length :=
    Program.width_eq wellFormed fits member
  rw [workRule, encoded, applies_tokenRule width (activeFlag_lt source), Rule.Applies]
  apply and_congr_left
  intro _
  split
  next mentioned => rw [Option.some.injEq, activeFlag_inj mentioned]
  next unmentioned =>
    constructor
    · simp
    · intro same
      exact absurd (same ▸ source) unmentioned

theorem width_zeros : machine.counters.length =
    (List.replicate program.tapes.toNat (0 : Int)).length := by
  have zeros := length_zeros wellFormed
  have width := fits.width_eq
  exact Int.ofNat.inj (width.trans zeros.symm)

theorem not_applies_returnRule_encoded {state : Int} (mentioned : state ∈ program.states) :
    ¬ (returnRule program state).Applies (encoded program machine) := by
  rw [returnRule, encoded, applies_tokenRule (width_zeros wellFormed fits) (relayFlag_lt mentioned)]
  rintro ⟨token, -⟩
  split at token
  next => exact activeFlag_ne_relayFlag _ _ (Option.some.inj token)
  next => simp at token

theorem not_applies_workRule_relayed (member : rule ∈ program.rules) :
    ¬ (workRule program rule).Applies (relayed program machine) := by
  have source : rule.source ∈ program.states := Program.source_mem_states member
  have width : machine.counters.length = rule.adjustments.length :=
    Program.width_eq wellFormed fits member
  rw [workRule, relayed, applies_tokenRule width (activeFlag_lt source)]
  rintro ⟨token, -⟩
  exact activeFlag_ne_relayFlag _ _ (Option.some.inj token).symm

theorem applies_returnRule_relayed {state : Int} (mentioned : state ∈ program.states) :
    (returnRule program state).Applies (relayed program machine) ↔ state = machine.state := by
  rw [returnRule, relayed, applies_tokenRule (width_zeros wellFormed fits) (relayFlag_lt mentioned),
    Option.some.injEq, eq_comm, relayFlag_inj mentioned]
  apply and_iff_left
  intro entry member negative
  rw [List.eq_of_mem_replicate (List.of_mem_zip member).2] at negative
  omega

/-- A rule that does not apply emits no rule that applies. -/
theorem not_applies_emitted_encoded (member : rule ∈ program.rules)
    (idle : ¬ rule.Applies machine) :
    ∀ other ∈ emitted program rule, ¬ other.Applies (encoded program machine) := by
  intro other inside
  rcases List.mem_cons.1 inside with rfl | inside
  · rwa [applies_workRule_encoded wellFormed fits member]
  · split at inside
    next =>
      obtain rfl := List.mem_singleton.1 inside
      exact not_applies_returnRule_encoded wellFormed fits (Program.source_mem_states member)
    next => simp at inside

/-- With the token on a relay, only the self-loops of its state emit rules that apply. -/
theorem not_applies_emitted_relayed (member : rule ∈ program.rules)
    (other : ¬ (rule.isSelfLoop = true ∧ rule.source = machine.state)) :
    ∀ other ∈ emitted program rule, ¬ other.Applies (relayed program machine) := by
  intro candidate inside
  rcases List.mem_cons.1 inside with rfl | inside
  · exact not_applies_workRule_relayed wellFormed fits member
  · split at inside
    next loop =>
      obtain rfl := List.mem_singleton.1 inside
      rw [applies_returnRule_relayed wellFormed fits (Program.source_mem_states member)]
      intro same
      exact other ⟨loop, same⟩
    next => simp at inside

end Applies

section Scan

variable (wellFormed : program.WellFormed) (fits : machine.Fits program.tapes)
include wellFormed fits

theorem scan_encoded_of_halted (halted : program.scan machine = .halted) :
    (singleForm program).scan (encoded program machine) = .halted := by
  have idle := Program.scan_halted wellFormed fits halted
  apply Program.scan_of_idle (wellFormed_singleForm wellFormed) (fits_encoded fits)
  intro other member
  obtain ⟨rule, inside, isEmitted⟩ := List.mem_flatMap.1 member
  exact not_applies_emitted_encoded wellFormed fits inside (idle rule inside) other isEmitted

theorem selects_encoded {before rest : List Rule}
    (selects : program.Selects machine before rule rest) :
    (singleForm program).Selects (encoded program machine)
      (before.flatMap (emitted program)) (workRule program rule)
      ((if rule.isSelfLoop then [returnRule program rule.source] else []) ++
        rest.flatMap (emitted program)) where
  split := rules_singleForm_of_split selects.split
  skipped := by
    intro other member
    obtain ⟨skipped, inside, isEmitted⟩ := List.mem_flatMap.1 member
    exact not_applies_emitted_encoded wellFormed fits (by simp [selects.split, inside])
      (selects.skipped skipped inside) other isEmitted
  applies := (applies_workRule_encoded wellFormed fits selects.mem).2 selects.applies

/-- The work rule of the selected rule is selected, and fires as that rule does. -/
theorem scan_encoded_of_selects {before rest : List Rule}
    (selects : program.Selects machine before rule rest) :
    (singleForm program).scan (encoded program machine) =
      match firstOverflow? (rule.adjust machine.counters) with
      | some fault => .faulted fault (encoded program machine)
      | none => .fired (workPosition program before.length) (workRule program rule)
          (if rule.isSelfLoop then relayed program ⟨rule.target, rule.adjust machine.counters⟩
          else encoded program ⟨rule.target, rule.adjust machine.counters⟩) := by
  have source : rule.source ∈ program.states := Program.source_mem_states selects.mem
  have target : rule.target ∈ program.states := Program.target_mem_states selects.mem
  have width : machine.counters.length = rule.adjustments.length :=
    Program.width_eq wellFormed fits selects.mem
  have sourceToken : encoded program machine =
      tokenMachine program machine.counters (some (activeFlag program rule.source)) := by
    simp [encoded, selects.applies.1, source]
  rw [Program.scan_of_selects (wellFormed_singleForm wellFormed) (fits_encoded fits)
    (selects_encoded wellFormed fits selects), length_flatMap_emitted,
    ← workPosition_of_split selects.split, sourceToken]
  by_cases loop : rule.isSelfLoop = true
  · have same : rule.source = rule.target := Rule.isSelfLoop_eq_true.1 loop
    rw [workRule, if_pos loop, if_pos loop, fire_tokenRule width (activeFlag_ne_relayFlag _ _),
      Rule.adjust]
    cases firstOverflow? (List.zipWith (· + ·) machine.counters rule.adjustments) with
    | some fault => rfl
    | none => simp only [relayed, ← same]
  · have different : activeFlag program rule.source ≠ activeFlag program rule.target := by
      rw [ne_eq, activeFlag_inj source]
      simpa using loop
    rw [workRule, if_neg loop, if_neg loop, fire_tokenRule width different, Rule.adjust]
    cases firstOverflow? (List.zipWith (· + ·) machine.counters rule.adjustments) with
    | some fault => rfl
    | none => simp only [encoded, target, ↓reduceIte]

theorem scan_encoded_of_faulted {fault : Fault}
    (faulted : program.scan machine = .faulted fault after) :
    (singleForm program).scan (encoded program machine) =
      .faulted fault (encoded program machine) := by
  obtain ⟨before, rule, rest, selects, overflow, -⟩ := Program.scan_faulted wellFormed fits faulted
  rw [scan_encoded_of_selects wellFormed fits selects, overflow]

theorem scan_encoded_of_fired {index : Nat}
    (fired : program.scan machine = .fired index rule after) :
    (singleForm program).scan (encoded program machine) =
      .fired (workPosition program index) (workRule program rule)
        (if rule.isSelfLoop then relayed program after else encoded program after) := by
  obtain ⟨before, rest, selects, rfl, noOverflow, rfl⟩ := Program.scan_fired wellFormed fits fired
  rw [scan_encoded_of_selects wellFormed fits selects, noOverflow]

theorem zipWith_zeros :
    List.zipWith (· + ·) machine.counters (List.replicate program.tapes.toNat 0) =
      machine.counters := by
  have width := width_zeros wellFormed fits
  apply List.ext_getElem
  · simp [← width]
  · intro tape left right
    simp

/-- With the token on a relay, the return rule of the first self-loop of its state is selected. -/
theorem selects_relayed {before rest : List Rule} {loop : Rule}
    (split : program.rules = before ++ loop :: rest) (isLoop : loop.isSelfLoop = true)
    (same : loop.source = machine.state)
    (skipped : ∀ rule ∈ before, ¬ (rule.isSelfLoop = true ∧ rule.source = machine.state)) :
    (singleForm program).Selects (relayed program machine)
      (before.flatMap (emitted program) ++ [workRule program loop])
      (returnRule program machine.state) (rest.flatMap (emitted program)) where
  split := by
    rw [rules_singleForm_of_split split, if_pos isLoop, same]
    simp
  skipped := by
    intro candidate inside
    cases List.mem_append.1 inside with
    | inl earlier =>
        obtain ⟨rule, ruleInside, isEmitted⟩ := List.mem_flatMap.1 earlier
        exact not_applies_emitted_relayed wellFormed fits (by simp [split, ruleInside])
          (skipped rule ruleInside) candidate isEmitted
    | inr last =>
        -- the work rule of the self-loop itself stands before its return rule
        rw [List.mem_singleton.1 last]
        exact not_applies_workRule_relayed wellFormed fits (by simp [split])
  applies := by
    apply (applies_returnRule_relayed wellFormed fits _).2 rfl
    rw [← same]
    exact Program.source_mem_states (by simp [split])

/-- With the token on the relay of a state that has a self-loop, the first return rule of that state
fires. -/
theorem scan_relayed {loop : Rule} (member : loop ∈ program.rules)
    (isLoop : loop.isSelfLoop = true) (same : loop.source = machine.state) :
    ∃ back other, program.rules[back]? = some other ∧ other.isSelfLoop = true ∧
      other.source = machine.state ∧
      (singleForm program).scan (relayed program machine) =
        .fired (workPosition program back + 1) (returnRule program machine.state)
          (encoded program machine) := by
  obtain ⟨before, other, rest, split, otherLoop, otherSame, skipped⟩ :=
    exists_first_loop member isLoop same
  have selects := selects_relayed wellFormed fits split otherLoop otherSame skipped
  have mentioned : machine.state ∈ program.states := by
    rw [← same]
    exact Program.source_mem_states member
  have noOverflow : firstOverflow? machine.counters = none :=
    firstOverflow?_eq_none.2 fun value inside => (fits.counters_bounded value inside).2
  refine ⟨before.length, other, by simp [split], otherLoop, otherSame, ?_⟩
  rw [Program.scan_of_selects (wellFormed_singleForm wellFormed) (fits_relayed fits) selects,
    List.length_append, length_flatMap_emitted, ← workPosition_of_split split, relayed, returnRule,
    fire_tokenRule (width_zeros wellFormed fits) (activeFlag_ne_relayFlag _ _).symm,
    zipWith_zeros wellFormed fits, noOverflow]
  simp [encoded, mentioned]

end Scan

end CounterMachine.Elimination
