import CounterMachine.Acceptance
import CounterMachine.Elimination
import CounterMachine.Proofs.Firing

/-!
# State elimination moves a token

On the extra tapes of the single-state form at most one counter is set, and it is `1`: a token. An
emitted rule takes the token from one of these tapes and puts it on another, and does to the source
tapes what its source rule does, or nothing if it only returns a relay. This module puts the rules
and machines that the elimination computes into that form, and says when an emitted rule applies
and what it does, so that the indices of tapes are not needed any more.
-/

namespace CounterMachine

theorem pairwise_insertAscending {value : Int} {values : List Int}
    (ascending : values.Pairwise (· < ·)) : (insertAscending value values).Pairwise (· < ·) := by
  induction values with
  | nil => simp [insertAscending]
  | cons head rest ih =>
      obtain ⟨below, restAscending⟩ := List.pairwise_cons.1 ascending
      rw [insertAscending]
      split
      next less =>
        refine List.pairwise_cons.2 ⟨?_, ascending⟩
        intro other member
        rcases List.mem_cons.1 member with rfl | inside
        · exact less
        · exact Int.lt_trans less (below other inside)
      next notLess =>
        split
        next => exact ascending
        next different =>
          refine List.pairwise_cons.2 ⟨?_, ih restAscending⟩
          intro other member
          rcases mem_insertAscending.1 member with rfl | inside
          · omega
          · exact below other inside

theorem Program.pairwise_states (program : Program) : program.states.Pairwise (· < ·) := by
  rw [Program.states]
  induction program.rules with
  | nil => simp
  | cons rule rest ih => exact pairwise_insertAscending (pairwise_insertAscending ih)

theorem Program.nodup_states (program : Program) : program.states.Nodup :=
  program.pairwise_states.imp fun less => Int.ne_of_lt less

namespace Elimination

variable {program : Program} {rule : Rule} {machine : Machine} {counters adjustments : List Int}
  {count origin destination : Nat} {token : Option Nat}

/-- A row of counters that are zero but for the token. -/
def flags (count : Nat) (token : Option Nat) : List Int :=
  (List.range count).map fun tape => if token = some tape then 1 else 0

/-- Adjustments that move the token. -/
def transfer (count origin destination : Nat) : List Int :=
  (List.range count).map fun tape =>
    if tape = origin then -1 else if tape = destination then 1 else 0

@[simp] theorem length_flags : (flags count token).length = count := by simp [flags]

@[simp] theorem length_transfer : (transfer count origin destination).length = count := by
  simp [transfer]

theorem mem_flags {value : Int} (member : value ∈ flags count token) : value = 0 ∨ value = 1 := by
  obtain ⟨tape, -, rfl⟩ := List.mem_map.1 member
  split
  next => exact .inr rfl
  next => exact .inl rfl

theorem mem_transfer {value : Int} (member : value ∈ transfer count origin destination) :
    minValue ≤ value ∧ value ≤ maxValue := by
  obtain ⟨tape, -, rfl⟩ := List.mem_map.1 member
  split
  next => decide
  next =>
    split
    next => decide
    next => decide

theorem flags_none : flags count none = List.replicate count 0 := by
  apply List.ext_getElem
  · simp
  · intro tape left right
    simp [flags]

theorem set_replicate_eq_flags (tape : Nat) :
    (List.replicate count (0 : Int)).set tape 1 = flags count (some tape) := by
  apply List.ext_getElem
  · simp
  · intro other left right
    simp [flags, List.getElem_set]

theorem set_set_replicate_eq_transfer :
    ((List.replicate count (0 : Int)).set destination 1).set origin (-1) =
      transfer count origin destination := by
  apply List.ext_getElem
  · simp
  · intro other left right
    simp only [transfer, List.getElem_set, List.getElem_replicate, List.getElem_map,
      List.getElem_range, eq_comm]

theorem zipWith_flags_transfer (different : origin ≠ destination) :
    List.zipWith (· + ·) (flags count (some origin)) (transfer count origin destination) =
      flags count (some destination) := by
  apply List.ext_getElem
  · simp
  · intro tape left right
    simp only [flags, transfer, List.getElem_zipWith, List.getElem_map, List.getElem_range,
      Option.some.injEq]
    split <;> split <;> omega

/-- Only the token satisfies the guard of a transfer. -/
theorem guards_transfer (inside : origin < count) :
    (∀ entry ∈ (flags count token).zip (transfer count origin destination),
      entry.2 < 0 → -entry.2 ≤ entry.1) ↔ token = some origin := by
  simp only [flags, transfer, List.zip_map', List.mem_map, List.mem_range, forall_exists_index,
    and_imp, forall_apply_eq_imp_iff₂]
  constructor
  · intro guards
    have guarded := guards origin inside
    by_cases holds : token = some origin
    · exact holds
    · simp [holds] at guarded
  · intro holds tape _ negative
    by_cases same : tape = origin
    · simp [same, holds]
    · simp only [same, ↓reduceIte] at negative
      split at negative <;> omega

/-- The place of a state among the states of a program, in ascending order. -/
def rank (program : Program) (state : Int) : Nat :=
  program.states.idxOf state

/-- Where the token is while a state is emulated, counted from the first extra tape. -/
def activeFlag (program : Program) (state : Int) : Nat :=
  2 * rank program state

/-- Where the token is in the middle of a self-loop. -/
def relayFlag (program : Program) (state : Int) : Nat :=
  2 * rank program state + 1

/-- The rule that adjusts the source tapes and moves the token. -/
def tokenRule (program : Program) (adjustments : List Int) (origin destination : Nat) : Rule :=
  onlyRule (adjustments ++ transfer (2 * program.states.length) origin destination)

/-- The rule that does the work of a source rule: it leaves the token on the relay of a self-loop,
and else on the active flag of the target. -/
def workRule (program : Program) (rule : Rule) : Rule :=
  tokenRule program rule.adjustments (activeFlag program rule.source)
    (if rule.isSelfLoop then relayFlag program rule.source else activeFlag program rule.target)

/-- The rule that returns the token from the relay of a state. -/
def returnRule (program : Program) (state : Int) : Rule :=
  tokenRule program (List.replicate program.tapes.toNat 0) (relayFlag program state)
    (activeFlag program state)

/-- The rules that are emitted for a rule. -/
def emitted (program : Program) (rule : Rule) : List Rule :=
  workRule program rule :: if rule.isSelfLoop then [returnRule program rule.source] else []

/-- The single-state form of a well-formed program. -/
def singleForm (program : Program) : Program :=
  ⟨tapeCount program, program.rules.flatMap (emitted program)⟩

/-- The source counters, and the token on one of the extra tapes. -/
def tokenMachine (program : Program) (counters : List Int) (token : Option Nat) : Machine :=
  ⟨onlyState, counters ++ flags (2 * program.states.length) token⟩

/-- The machine of the single-state form that stands for a machine. -/
def encoded (program : Program) (machine : Machine) : Machine :=
  tokenMachine program machine.counters
    (if machine.state ∈ program.states then some (activeFlag program machine.state) else none)

/-- The same in the middle of a self-loop. -/
def relayed (program : Program) (machine : Machine) : Machine :=
  tokenMachine program machine.counters (some (relayFlag program machine.state))

theorem rank_lt {state : Int} (mentioned : state ∈ program.states) :
    rank program state < program.states.length :=
  List.idxOf_lt_length_of_mem mentioned

theorem activeFlag_lt {state : Int} (mentioned : state ∈ program.states) :
    activeFlag program state < 2 * program.states.length := by
  have := rank_lt mentioned
  unfold activeFlag
  omega

theorem relayFlag_lt {state : Int} (mentioned : state ∈ program.states) :
    relayFlag program state < 2 * program.states.length := by
  have := rank_lt mentioned
  unfold relayFlag
  omega

theorem rank_inj {left right : Int} (leftMentioned : left ∈ program.states)
    (same : rank program left = rank program right) : left = right := by
  have found := List.getElem_idxOf (rank_lt leftMentioned)
  have rightLt : rank program right < program.states.length := same ▸ rank_lt leftMentioned
  have otherFound := List.getElem_idxOf rightLt
  unfold rank at same
  simp only [same] at found
  exact found.symm.trans otherFound

theorem activeFlag_inj {left right : Int} (leftMentioned : left ∈ program.states) :
    activeFlag program left = activeFlag program right ↔ left = right := by
  constructor
  · intro same
    unfold activeFlag at same
    exact rank_inj leftMentioned (by omega)
  · rintro rfl
    rfl

theorem relayFlag_inj {left right : Int} (leftMentioned : left ∈ program.states) :
    relayFlag program left = relayFlag program right ↔ left = right := by
  constructor
  · intro same
    unfold relayFlag at same
    exact rank_inj leftMentioned (by omega)
  · rintro rfl
    rfl

theorem activeFlag_ne_relayFlag (left right : Int) :
    activeFlag program left ≠ relayFlag program right := by
  unfold activeFlag relayFlag
  omega

/-! ## What the elimination computes -/

@[simp] theorem length_numbering : (numbering program).length = program.states.length := by
  simp [numbering]

theorem lookup_zipIdx (values : List Int) (first : Nat) (value : Int) :
    ((values.zipIdx first).map fun entry => (entry.1, (entry.2 : Int))).lookup value =
      if value ∈ values then some ((first + values.idxOf value : Nat) : Int) else none := by
  induction values generalizing first with
  | nil => rfl
  | cons head rest ih =>
      rw [List.zipIdx_cons, List.map_cons, List.lookup_cons, ih, List.idxOf_cons]
      by_cases same : value = head
      · simp [same]
      · have notFound : (value == head) = false := by simpa using same
        have notHead : (head == value) = false := beq_false_of_ne fun equal => same equal.symm
        have shifted : first + 1 + rest.idxOf value = first + (rest.idxOf value + 1) := by omega
        simp only [notFound, notHead, shifted, List.mem_cons, same, false_or, cond_false]

theorem lookup_numbering (state : Int) :
    (numbering program).lookup state =
      if state ∈ program.states then some (rank program state : Int) else none := by
  rw [numbering, lookup_zipIdx, Nat.zero_add, rank]

theorem number_numbering {state : Int} (mentioned : state ∈ program.states) :
    number (numbering program) state = .ok (rank program state : Int) := by
  simp [number, lookup_numbering, mentioned]

/-- Writing on an extra tape leaves the source tapes alone. -/
theorem setTape_append {front row : List Int} {tape amount : Int} {offset : Nat}
    (position : tape = front.length + offset) (inside : offset < row.length) :
    setTape (front ++ row) tape amount = .ok (front ++ row.set offset amount) := by
  have tape_eq : tape = ((front.length + offset : Nat) : Int) := by omega
  have bound : front.length + offset < (front ++ row).length := by simp [inside]
  rw [setTape, setEntry?, tape_eq, position?_natCast bound]
  simp

theorem setTape_active {front row : List Int} {state amount : Int}
    (mentioned : state ∈ program.states) (frontWidth : (front.length : Int) = program.tapes)
    (rowWidth : row.length = 2 * program.states.length) :
    setTape (front ++ row) (activeTape program.tapes (rank program state)) amount =
      .ok (front ++ row.set (activeFlag program state) amount) := by
  apply setTape_append
  · simp only [activeTape, activeFlag]
    omega
  · rw [rowWidth]
    exact activeFlag_lt mentioned

theorem setTape_relay {front row : List Int} {state amount : Int}
    (mentioned : state ∈ program.states) (frontWidth : (front.length : Int) = program.tapes)
    (rowWidth : row.length = 2 * program.states.length) :
    setTape (front ++ row) (relayTape program.tapes (rank program state)) amount =
      .ok (front ++ row.set (relayFlag program state) amount) := by
  apply setTape_append
  · simp only [relayTape, relayFlag]
    omega
  · rw [rowWidth]
    exact relayFlag_lt mentioned

theorem length_zeros (wellFormed : program.WellFormed) :
    ((List.replicate program.tapes.toNat (0 : Int)).length : Int) = program.tapes := by
  have nonneg := wellFormed.tapes_nonneg
  rw [List.length_replicate]
  omega

/-- A row of zeros as wide as the single-state form, in its two parts. -/
theorem replicate_tapeCount (wellFormed : program.WellFormed) :
    List.replicate (tapeCount program).toNat (0 : Int) =
      List.replicate program.tapes.toNat 0 ++ List.replicate (2 * program.states.length) 0 := by
  have nonneg := wellFormed.tapes_nonneg
  rw [List.replicate_append_replicate, tapeCount, length_numbering]
  congr 1
  omega

theorem spliceFront_append {front row others : List Int} (wellFormed : program.WellFormed)
    (width : (front.length : Int) = program.tapes) :
    spliceFront (front ++ row) program.tapes others = others ++ row := by
  have nonneg : ¬ program.tapes < 0 := Int.not_lt.2 wellFormed.tapes_nonneg
  have removed : program.tapes.toNat = front.length := by omega
  simp [spliceFront, nonneg, removed]

theorem encodeRule_eq (wellFormed : program.WellFormed) (member : rule ∈ program.rules) :
    encodeRule (numbering program) program.tapes (tapeCount program) rule =
      .ok (emitted program rule) := by
  have width : (rule.adjustments.length : Int) = program.tapes :=
    (wellFormed.rules_wellFormed rule member).width_eq
  have zerosWidth := length_zeros wellFormed
  have source : rule.source ∈ program.states := Program.source_mem_states member
  have target : rule.target ∈ program.states := Program.target_mem_states member
  have taken : setTape (rule.adjustments ++ List.replicate (2 * program.states.length) 0)
      (activeTape program.tapes (rank program rule.source)) (-1) =
      .ok (rule.adjustments ++ (List.replicate (2 * program.states.length) 0).set
        (activeFlag program rule.source) (-1)) :=
    setTape_active source width (by simp)
  simp only [encodeRule, number_numbering source, bind, Except.bind,
    replicate_tapeCount wellFormed, spliceFront_append wellFormed zerosWidth, taken]
  by_cases loop : rule.isSelfLoop = true
  · rw [if_pos loop, setTape_relay source width (by simp),
      setTape_active source zerosWidth (by simp)]
    simp only []
    -- the row of a transfer does not depend on which of its two entries is written first
    rw [setTape_relay source zerosWidth (by simp), set_set_replicate_eq_transfer,
      List.set_comm _ _ (activeFlag_ne_relayFlag _ _), set_set_replicate_eq_transfer]
    simp only [pure, Except.pure, emitted, loop, ↓reduceIte, workRule, returnRule, tokenRule]
  · have different : activeFlag program rule.source ≠ activeFlag program rule.target := by
      rw [ne_eq, activeFlag_inj source]
      simpa using loop
    rw [if_neg loop, number_numbering target]
    simp only []
    rw [setTape_active target width (by simp), List.set_comm _ _ different,
      set_set_replicate_eq_transfer]
    simp only [pure, Except.pure, emitted, loop, workRule, tokenRule]
    rfl

theorem mapM_encodeRule_eq (wellFormed : program.WellFormed) {rules : List Rule}
    (members : ∀ rule ∈ rules, rule ∈ program.rules) :
    rules.mapM (encodeRule (numbering program) program.tapes (tapeCount program)) =
      .ok (rules.map (emitted program)) := by
  induction rules with
  | nil => rfl
  | cons rule rest ih =>
      rw [List.mapM_cons, encodeRule_eq wellFormed (members rule List.mem_cons_self),
        ih fun other member => members other (List.mem_cons_of_mem _ member)]
      rfl

/-- The single-state form exists and consists of token moves. -/
theorem eliminate_eq (wellFormed : program.WellFormed) :
    eliminate program.toDraft = .ok (singleForm program) := by
  have accepted := DraftProgram.accept_eq_ok.2 ⟨rfl, wellFormed⟩
  rw [eliminate, accepted]
  simp only [encodeProgram, mapM_encodeRule_eq wellFormed fun _ member => member, bind,
    Except.bind]
  rfl

/-- Every machine that fits is encoded, with a token for its state if a rule mentions that. -/
theorem eliminateMachine_eq (wellFormed : program.WellFormed)
    (fits : machine.Fits program.tapes) :
    eliminateMachine machine.toDraft program.toDraft = .ok (encoded program machine) := by
  have accepted := DraftProgram.accept_eq_ok.2 ⟨rfl, wellFormed⟩
  have machineAccepted := DraftMachine.accept_eq_ok.2 ⟨rfl, fits⟩
  simp only [eliminateMachine, accepted, machineAccepted, encodeMachine, lookup_numbering,
    length_numbering]
  by_cases mentioned : machine.state ∈ program.states
  · simp only [mentioned, ↓reduceIte, setTape_active mentioned fits.width_eq List.length_replicate,
      set_replicate_eq_flags, encoded, tokenMachine]
    rfl
  · simp only [mentioned, ↓reduceIte, encoded, tokenMachine, flags_none]
    rfl

theorem mem_emitted {other : Rule} (wellFormed : program.WellFormed)
    (member : rule ∈ program.rules) (inside : other ∈ emitted program rule) :
    ∃ adjustments origin destination, other = tokenRule program adjustments origin destination ∧
      (adjustments.length : Int) = program.tapes ∧
      ∀ amount ∈ adjustments, minValue ≤ amount ∧ amount ≤ maxValue := by
  have ruleWellFormed := wellFormed.rules_wellFormed rule member
  rcases List.mem_cons.1 inside with rfl | inside
  · exact ⟨_, _, _, rfl, ruleWellFormed.width_eq, ruleWellFormed.adjustments_bounded⟩
  · split at inside
    next =>
      obtain rfl := List.mem_singleton.1 inside
      refine ⟨_, _, _, rfl, length_zeros wellFormed, ?_⟩
      intro amount zero
      rw [List.eq_of_mem_replicate zero]
      decide
    next => simp at inside

theorem wellFormed_singleForm (wellFormed : program.WellFormed) :
    (singleForm program).WellFormed where
  tapes_nonneg := by
    have := wellFormed.tapes_nonneg
    simp only [singleForm, tapeCount]
    omega
  rules_wellFormed := by
    intro other member
    obtain ⟨rule, inside, isEmitted⟩ := List.mem_flatMap.1 member
    obtain ⟨adjustments, origin, destination, rfl, width, bounded⟩ :=
      mem_emitted wellFormed inside isEmitted
    refine ⟨?_, Int.le_refl 0, Int.le_refl 0, ?_⟩
    · simp only [Rule.width, tokenRule, onlyRule, List.length_append, length_transfer, singleForm,
        tapeCount, length_numbering]
      omega
    · intro amount inRow
      rcases List.mem_append.1 inRow with inSource | inTransfer
      · exact bounded amount inSource
      · exact mem_transfer inTransfer

theorem fits_tokenMachine (fits : machine.Fits program.tapes) :
    (tokenMachine program machine.counters token).Fits (singleForm program).tapes where
  width_eq := by
    have width := fits.width_eq
    simp only [Machine.width] at width
    simp only [Machine.width, tokenMachine, List.length_append, length_flags, singleForm, tapeCount,
      length_numbering]
    omega
  state_nonneg := Int.le_refl 0
  counters_bounded := by
    intro value member
    rcases List.mem_append.1 member with inSource | inFlags
    · exact fits.counters_bounded value inSource
    · rcases mem_flags inFlags with rfl | rfl
      · decide
      · decide

theorem fits_encoded (fits : machine.Fits program.tapes) :
    (encoded program machine).Fits (singleForm program).tapes :=
  fits_tokenMachine fits

theorem fits_relayed (fits : machine.Fits program.tapes) :
    (relayed program machine).Fits (singleForm program).tapes :=
  fits_tokenMachine fits

/-- A token rule applies if the token is at its origin and the source tapes satisfy the guards. -/
theorem applies_tokenRule (width : counters.length = adjustments.length)
    (inside : origin < 2 * program.states.length) :
    (tokenRule program adjustments origin destination).Applies
        (tokenMachine program counters token) ↔
      token = some origin ∧
        ∀ entry ∈ counters.zip adjustments, entry.2 < 0 → -entry.2 ≤ entry.1 := by
  simp only [Rule.Applies, tokenRule, tokenMachine, onlyRule, List.zip_append width, true_and,
    List.mem_append, or_imp, forall_and, guards_transfer inside]
  exact and_comm

theorem fire_tokenRule {index : Nat} (width : counters.length = adjustments.length)
    (different : origin ≠ destination) :
    (tokenRule program adjustments origin destination).fire index
        (tokenMachine program counters (some origin)) =
      match firstOverflow? (List.zipWith (· + ·) counters adjustments) with
      | some fault => .faulted fault (tokenMachine program counters (some origin))
      | none => .fired index (tokenRule program adjustments origin destination)
          (tokenMachine program (List.zipWith (· + ·) counters adjustments)
            (some destination)) := by
  have bounded : ∀ value ∈ flags (2 * program.states.length) (some destination),
      value ≤ maxValue := by
    intro value member
    rcases mem_flags member with rfl | rfl
    · decide
    · decide
  cases overflow : firstOverflow? (List.zipWith (· + ·) counters adjustments) with
  | some fault =>
      simp only [Rule.fire, Rule.adjust, tokenRule, tokenMachine, onlyRule,
        List.zipWith_append width, zipWith_flags_transfer different,
        firstOverflow?_append bounded, overflow]
  | none =>
      simp only [Rule.fire, Rule.adjust, tokenRule, tokenMachine, onlyRule,
        List.zipWith_append width, zipWith_flags_transfer different,
        firstOverflow?_append bounded, overflow]

end Elimination

end CounterMachine
