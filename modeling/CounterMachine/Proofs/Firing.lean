import CounterMachine.Machine

/-!
# Firing on machines that fit

What the scan of a well-formed program does to a machine that fits it, said without the scan. A
rule applies if the machine is in its state and every guard holds. The first rule that applies is
selected, and it either moves the machine or overflows. Nothing else can happen: the faults for a
mismatched width and for a negative counter are excluded, and the machine after a firing fits
again.

Runs are counted by their firings. `Program.firings` is the prefix of a run with a given number of
firings: the positions of the rules that fire, in order, and the machine they lead to.
-/

namespace CounterMachine

variable {program : Program} {machine after : Machine} {rule : Rule} {tapes : Int}

/-- The machine is in the state of the rule, and every guarded counter holds the guarded amount. -/
def Rule.Applies (rule : Rule) (machine : Machine) : Prop :=
  machine.state = rule.source ∧
    ∀ entry ∈ machine.counters.zip rule.adjustments, entry.2 < 0 → -entry.2 ≤ entry.1

instance (rule : Rule) (machine : Machine) : Decidable (rule.Applies machine) :=
  inferInstanceAs (Decidable (_ ∧ _))

/-- What firing the rule at a position comes to, once the rule is known to apply. -/
def Rule.fire (rule : Rule) (index : Nat) (machine : Machine) : Scan :=
  match firstOverflow? (rule.adjust machine.counters) with
  | some fault => .faulted fault machine
  | none => .fired index rule ⟨rule.target, rule.adjust machine.counters⟩

theorem Rule.guardsHold_eq_true {counters : List Int} :
    rule.guardsHold counters = true ↔
      ∀ entry ∈ counters.zip rule.adjustments, entry.2 < 0 → -entry.2 ≤ entry.1 := by
  simp only [Rule.guardsHold, List.all_eq_true, Bool.or_eq_true, decide_eq_true_eq]
  constructor
  · intro holds entry member negative
    have := holds entry member
    omega
  · intro holds entry member
    have := holds entry member
    omega

/-- Guards keep a firing from taking more than there is. -/
theorem Rule.adjust_nonneg {counters : List Int}
    (guards : ∀ entry ∈ counters.zip rule.adjustments, entry.2 < 0 → -entry.2 ≤ entry.1)
    (nonneg : ∀ value ∈ counters, 0 ≤ value) :
    ∀ value ∈ rule.adjust counters, 0 ≤ value := by
  intro value member
  rw [Rule.adjust, ← List.map_uncurry_zip_eq_zipWith] at member
  obtain ⟨⟨counter, amount⟩, inside, rfl⟩ := List.mem_map.1 member
  have guarded := guards _ inside
  have counterNonneg := nonneg counter (List.of_mem_zip inside).1
  simp only [Function.uncurry_apply_pair] at guarded ⊢
  omega

@[simp] theorem Rule.length_adjust {counters : List Int} (width : counters.length = rule.width) :
    (rule.adjust counters).length = counters.length := by
  simp only [Rule.width] at width
  simp [Rule.adjust, width]

/-- The lowest overflow is found by position and value alike. -/
theorem firstOverflow?_eq_find? (counters : List Int) :
    firstOverflow? counters =
      (counters.zipIdx.find? fun entry => decide (maxValue < entry.1)).map fun entry =>
        .overflow entry.2 entry.1 := by
  rw [firstOverflow?]
  induction counters.zipIdx with
  | nil => rfl
  | cons entry entries ih =>
      by_cases above : maxValue < entry.1
      · simp [above]
      · simp [above, ih]

theorem firstOverflow?_eq_none {counters : List Int} :
    firstOverflow? counters = none ↔ ∀ value ∈ counters, value ≤ maxValue := by
  simp only [firstOverflow?_eq_find?, Option.map_eq_none_iff, List.find?_eq_none,
    decide_eq_true_eq, Int.not_lt]
  constructor
  · intro bounded value member
    obtain ⟨index, inside, rfl⟩ := List.getElem_of_mem member
    exact bounded (counters[index], index) (by simp [List.mem_zipIdx_iff_getElem?, inside])
  · intro bounded entry member
    exact bounded entry.1 (List.fst_mem_of_mem_zipIdx member)

theorem exists_overflow_of_firstOverflow? {counters : List Int} {fault : Fault}
    (found : firstOverflow? counters = some fault) :
    ∃ tape value, fault = .overflow tape value := by
  rw [firstOverflow?_eq_find?, Option.map_eq_some_iff] at found
  obtain ⟨entry, -, rfl⟩ := found
  exact ⟨entry.2, entry.1, rfl⟩

/-- Tapes that do not overflow may be added after the others. -/
theorem firstOverflow?_append {counters others : List Int}
    (bounded : ∀ value ∈ others, value ≤ maxValue) :
    firstOverflow? (counters ++ others) = firstOverflow? counters := by
  have none : (others.zipIdx (0 + counters.length)).find?
      (fun entry => decide (maxValue < entry.1)) = none := by
    simp only [List.find?_eq_none, decide_eq_true_eq, Int.not_lt]
    intro entry member
    exact bounded entry.1 (List.fst_mem_of_mem_zipIdx member)
  simp only [firstOverflow?_eq_find?, List.zipIdx_append, List.find?_append, none, Option.or_none]

theorem Machine.tryRule_of_applies (width : machine.width = rule.width)
    (nonneg : ∀ value ∈ machine.counters, 0 ≤ value) (applies : rule.Applies machine) :
    machine.tryRule rule =
      match firstOverflow? (rule.adjust machine.counters) with
      | some fault => (.error fault, machine)
      | none => (.ok .applied, ⟨rule.target, rule.adjust machine.counters⟩) := by
  obtain ⟨sameState, guards⟩ := applies
  have holds : rule.guardsHold machine.counters = true := Rule.guardsHold_eq_true.2 guards
  have moved : Machine.isNonnegative ⟨machine.state, rule.adjust machine.counters⟩ = true := by
    simpa [Machine.isNonnegative] using Rule.adjust_nonneg guards nonneg
  simp only [Machine.tryRule, Machine.canApply, Machine.move, sameState, width, holds]
  cases firstOverflow? (rule.adjust machine.counters) with
  | some fault => simp
  | none =>
      rw [sameState] at moved
      simp [moved]

theorem Machine.tryRule_of_not_applies (width : machine.width = rule.width)
    (idle : ¬ rule.Applies machine) :
    machine.tryRule rule = (.ok .wrongState, machine) ∨
      machine.tryRule rule = (.ok .guardUnsatisfied, machine) := by
  by_cases sameState : machine.state = rule.source
  · right
    have fails : rule.guardsHold machine.counters = false := by
      rw [← Bool.not_eq_true]
      intro holds
      exact idle ⟨sameState, Rule.guardsHold_eq_true.1 holds⟩
    simp [Machine.tryRule, Machine.canApply, sameState, width, fails]
  · left
    simp [Machine.tryRule, sameState]

/-! ## Scanning the rules -/

theorem scanRules_append_of_not_applies {index : Nat} {before rest : List Rule}
    (widths : ∀ rule ∈ before, machine.width = rule.width)
    (idle : ∀ rule ∈ before, ¬ rule.Applies machine) :
    scanRules machine index (before ++ rest) = scanRules machine (index + before.length) rest := by
  induction before generalizing index with
  | nil => rfl
  | cons rule before ih =>
      have skipped : scanRules machine index (rule :: before ++ rest) =
          scanRules machine (index + 1) (before ++ rest) := by
        rcases Machine.tryRule_of_not_applies (widths rule List.mem_cons_self)
          (idle rule List.mem_cons_self) with tried | tried
        · simp [scanRules, tried]
        · simp [scanRules, tried]
      rw [skipped, ih (fun other member => widths other (List.mem_cons_of_mem _ member))
        (fun other member => idle other (List.mem_cons_of_mem _ member)),
        List.length_cons, Nat.add_assoc, Nat.add_comm 1]

/-- The first rule of a program that applies, with the rules around it. Its position is the number
of rules before it. -/
structure Program.Selects (program : Program) (machine : Machine) (before : List Rule)
    (rule : Rule) (rest : List Rule) : Prop where
  split : program.rules = before ++ rule :: rest
  skipped : ∀ other ∈ before, ¬ other.Applies machine
  applies : rule.Applies machine

/-- Either no rule applies, or one of them is the first. -/
theorem Program.selects_or_idle (program : Program) (machine : Machine) :
    (∃ before rule rest, program.Selects machine before rule rest) ∨
      ∀ rule ∈ program.rules, ¬ rule.Applies machine := by
  cases found : program.rules.find? fun rule => decide (rule.Applies machine) with
  | none =>
      right
      simpa using found
  | some rule =>
      left
      obtain ⟨applies, before, rest, split, skipped⟩ := List.find?_eq_some_iff_append.1 found
      exact ⟨before, rule, rest, split, by simpa using skipped, by simpa using applies⟩

namespace Program

variable {before rest : List Rule} {index : Nat}

theorem Selects.mem (selects : program.Selects machine before rule rest) :
    rule ∈ program.rules := by
  simp [selects.split]

theorem Selects.getElem? (selects : program.Selects machine before rule rest) :
    program.rules[before.length]? = some rule := by
  simp [selects.split]

theorem source_mem_states (member : rule ∈ program.rules) : rule.source ∈ program.states :=
  mem_states.2 ⟨rule, member, .inl rfl⟩

theorem target_mem_states (member : rule ∈ program.rules) : rule.target ∈ program.states :=
  mem_states.2 ⟨rule, member, .inr rfl⟩

theorem width_eq (wellFormed : program.WellFormed) (fits : machine.Fits program.tapes)
    (member : rule ∈ program.rules) : machine.width = rule.width := by
  have machineWidth := fits.width_eq
  have ruleWidth := (wellFormed.rules_wellFormed rule member).width_eq
  omega

theorem scan_of_selects (wellFormed : program.WellFormed) (fits : machine.Fits program.tapes)
    (selects : program.Selects machine before rule rest) :
    program.scan machine = rule.fire before.length machine := by
  have widths : ∀ other ∈ before, machine.width = other.width := by
    intro other member
    exact width_eq wellFormed fits (by simp [selects.split, member])
  have tried := Machine.tryRule_of_applies (width_eq wellFormed fits selects.mem)
    (fun value member => (fits.counters_bounded value member).1) selects.applies
  rw [scan, selects.split, scanRules_append_of_not_applies widths selects.skipped, Nat.zero_add,
    scanRules, tried, Rule.fire]
  cases firstOverflow? (rule.adjust machine.counters) with
  | some fault => rfl
  | none => rfl

theorem scan_of_idle (wellFormed : program.WellFormed) (fits : machine.Fits program.tapes)
    (idle : ∀ rule ∈ program.rules, ¬ rule.Applies machine) : program.scan machine = .halted := by
  rw [scan, ← List.append_nil program.rules, scanRules_append_of_not_applies
    (fun rule member => width_eq wellFormed fits member) idle]
  rfl

/-- A scan that fires has selected the rule, and no counter overflows. -/
theorem scan_fired (wellFormed : program.WellFormed) (fits : machine.Fits program.tapes)
    (fired : program.scan machine = .fired index rule after) :
    ∃ before rest, program.Selects machine before rule rest ∧ before.length = index ∧
      firstOverflow? (rule.adjust machine.counters) = none ∧
      after = ⟨rule.target, rule.adjust machine.counters⟩ := by
  rcases program.selects_or_idle machine with ⟨before, selected, rest, selects⟩ | idle
  · rw [scan_of_selects wellFormed fits selects, Rule.fire] at fired
    split at fired
    next => simp at fired
    next noOverflow =>
      obtain ⟨rfl, rfl, rfl⟩ := Scan.fired.inj fired
      exact ⟨before, rest, selects, rfl, noOverflow, rfl⟩
  · rw [scan_of_idle wellFormed fits idle] at fired
    simp at fired

/-- A scan that faults has selected a rule, which overflows and leaves the machine. -/
theorem scan_faulted {fault : Fault} (wellFormed : program.WellFormed)
    (fits : machine.Fits program.tapes) (faulted : program.scan machine = .faulted fault after) :
    ∃ before rule rest, program.Selects machine before rule rest ∧
      firstOverflow? (rule.adjust machine.counters) = some fault ∧ after = machine := by
  rcases program.selects_or_idle machine with ⟨before, rule, rest, selects⟩ | idle
  · rw [scan_of_selects wellFormed fits selects, Rule.fire] at faulted
    split at faulted
    next overflow =>
      obtain ⟨rfl, rfl⟩ := Scan.faulted.inj faulted
      exact ⟨before, rule, rest, selects, overflow, rfl⟩
    next => simp at faulted
  · rw [scan_of_idle wellFormed fits idle] at faulted
    simp at faulted

/-- A scan that halts has found no rule that applies. -/
theorem scan_halted (wellFormed : program.WellFormed) (fits : machine.Fits program.tapes)
    (halted : program.scan machine = .halted) :
    ∀ rule ∈ program.rules, ¬ rule.Applies machine := by
  rcases program.selects_or_idle machine with ⟨before, rule, rest, selects⟩ | idle
  · rw [scan_of_selects wellFormed fits selects, Rule.fire] at halted
    split at halted
    next => simp at halted
    next => simp at halted
  · exact idle

/-- The machine after a firing fits the program again. -/
theorem fits_of_fired (wellFormed : program.WellFormed) (fits : machine.Fits program.tapes)
    (fired : program.scan machine = .fired index rule after) : after.Fits program.tapes := by
  obtain ⟨before, rest, selects, -, noOverflow, rfl⟩ := scan_fired wellFormed fits fired
  have ruleWellFormed := wellFormed.rules_wellFormed rule selects.mem
  have width := width_eq wellFormed fits selects.mem
  refine ⟨?_, ruleWellFormed.target_nonneg, ?_⟩
  · have sameWidth : (rule.adjust machine.counters).length = machine.counters.length :=
      Rule.length_adjust width
    have machineWidth := fits.width_eq
    simp only [Machine.width] at machineWidth ⊢
    omega
  · intro value member
    exact ⟨Rule.adjust_nonneg selects.applies.2
      (fun value member => (fits.counters_bounded value member).1) value member,
      firstOverflow?_eq_none.1 noOverflow value member⟩

theorem scan_of_unmentioned (wellFormed : program.WellFormed) (fits : machine.Fits program.tapes)
    (unmentioned : machine.state ∉ program.states) : program.scan machine = .halted := by
  apply scan_of_idle wellFormed fits
  intro rule member applies
  exact unmentioned (applies.1 ▸ source_mem_states member)

theorem mem_states_of_fired (wellFormed : program.WellFormed) (fits : machine.Fits program.tapes)
    (fired : program.scan machine = .fired index rule after) : after.state ∈ program.states := by
  obtain ⟨before, rest, selects, -, -, rfl⟩ := scan_fired wellFormed fits fired
  exact target_mem_states selects.mem

/-! ## Counted runs -/

/-- The first firings of a run from `start`, if there are that many: the positions of the rules that
fire, and the machine that is reached. -/
def firings (program : Program) (start : Machine) : Nat → Option (List Nat × Machine)
  | 0 => some ([], start)
  | count + 1 =>
      match program.firings start count with
      | none => none
      | some (positions, machine) =>
          match program.scan machine with
          | .fired index _ after => some (positions ++ [index], after)
          | .halted | .faulted _ _ => none

variable {start : Machine} {count total : Nat} {positions : List Nat}

@[simp] theorem firings_zero : program.firings start 0 = some ([], start) := rfl

theorem firings_succ_of_fired (reached : program.firings start count = some (positions, machine))
    (fired : program.scan machine = .fired index rule after) :
    program.firings start (count + 1) = some (positions ++ [index], after) := by
  simp [firings, reached, fired]

/-- A run with one firing more is a run and a firing. -/
theorem firings_succ_eq_some :
    program.firings start (count + 1) = some (positions, after) ↔
      ∃ earlier machine index rule, program.firings start count = some (earlier, machine) ∧
        program.scan machine = .fired index rule after ∧ positions = earlier ++ [index] := by
  constructor
  · intro reached
    rw [firings] at reached
    split at reached
    next => simp at reached
    next earlier machine before =>
      split at reached
      next index rule moved fired =>
        simp only [Option.some.injEq, Prod.mk.injEq] at reached
        obtain ⟨rfl, rfl⟩ := reached
        exact ⟨earlier, machine, index, rule, before, fired, rfl⟩
      next => simp at reached
      next => simp at reached
  · rintro ⟨earlier, machine, index, rule, before, fired, rfl⟩
    exact firings_succ_of_fired before fired

/-- What holds at the start and is kept by every firing holds along a run. -/
theorem firings_preserves (Invariant : Nat → List Nat → Machine → Prop)
    (initial : Invariant 0 [] start)
    (kept : ∀ count positions machine index rule after,
      program.firings start count = some (positions, machine) →
      program.scan machine = .fired index rule after → Invariant count positions machine →
      Invariant (count + 1) (positions ++ [index]) after)
    (reached : program.firings start count = some (positions, machine)) :
    Invariant count positions machine := by
  induction count generalizing positions machine with
  | zero =>
      cases reached
      exact initial
  | succ count ih =>
      obtain ⟨earlier, middle, index, rule, before, fired, rfl⟩ := firings_succ_eq_some.1 reached
      exact kept count earlier middle index rule machine before fired (ih before)

theorem length_of_firings (reached : program.firings start count = some (positions, machine)) :
    positions.length = count := by
  refine firings_preserves (fun count positions _ => positions.length = count) rfl ?_ reached
  intro count positions machine index rule after before fired length
  simp [length]

/-- Every machine of a run fits. -/
theorem fits_of_firings (wellFormed : program.WellFormed) (fits : start.Fits program.tapes)
    (reached : program.firings start count = some (positions, machine)) :
    machine.Fits program.tapes := by
  refine firings_preserves (fun _ _ machine => machine.Fits program.tapes) fits ?_ reached
  intro count positions machine index rule after before fired holds
  exact fits_of_fired wellFormed holds fired

/-- A run from a state of the program never leaves its states. -/
theorem mem_states_of_firings (wellFormed : program.WellFormed) (fits : start.Fits program.tapes)
    (mentioned : start.state ∈ program.states)
    (reached : program.firings start count = some (positions, machine)) :
    machine.state ∈ program.states := by
  refine firings_preserves (fun _ _ machine => machine.state ∈ program.states) mentioned ?_ reached
  intro count positions machine index rule after before fired _
  exact mem_states_of_fired wellFormed (fits_of_firings wellFormed fits before) fired

/-- A machine at which a run ends: no rule fires there. -/
def Stops (program : Program) (machine : Machine) : Prop :=
  ∀ index rule after, program.scan machine ≠ .fired index rule after

/-- A run that has ended has no further firings. -/
theorem Stops.firings_eq_none (stops : program.Stops machine)
    (reached : program.firings start count = some (positions, machine)) (beyond : count < total) :
    program.firings start total = none := by
  induction total with
  | zero => omega
  | succ total ih =>
      rw [firings]
      rcases Nat.lt_succ_iff_lt_or_eq.1 beyond with later | rfl
      · simp [ih later]
      · simp only [reached]
        cases scanned : program.scan machine with
        | fired index rule after => exact absurd scanned (stops index rule after)
        | halted => rfl
        | faulted fault left => rfl

/-- A run has a given number of firings, or it ends before. -/
theorem firings_or_stops (program : Program) (start : Machine) (count : Nat) :
    (∃ positions machine, program.firings start count = some (positions, machine)) ∨
      ∃ earlier < count, ∃ positions machine,
        program.firings start earlier = some (positions, machine) ∧ program.Stops machine := by
  induction count with
  | zero => exact .inl ⟨[], start, rfl⟩
  | succ count ih =>
      rcases ih with ⟨positions, machine, reached⟩ | ⟨earlier, below, stopped⟩
      · by_cases fires : ∃ index rule after, program.scan machine = .fired index rule after
        · obtain ⟨index, rule, after, fired⟩ := fires
          exact .inl ⟨_, _, firings_succ_of_fired reached fired⟩
        · exact .inr ⟨count, Nat.lt_succ_self count, positions, machine, reached,
            fun index rule after fired => fires ⟨index, rule, after, fired⟩⟩
      · exact .inr ⟨earlier, Nat.lt_succ_of_lt below, stopped⟩

end Program

end CounterMachine
