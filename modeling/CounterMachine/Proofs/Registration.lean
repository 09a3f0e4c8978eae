import CounterMachine.Library.Catalog

/-!
# Histories of a catalog

Two operations change a catalog: a registration that succeeds adds one entry under a new name, and
freezing puts an end to registrations. `Performed` lists what one operation can do, and `Defines`
says of a history alone which entry it gives to a name: the first that is registered under it, if
that is done before the catalog is frozen. Looking a name up after a history finds what the history
defines, and it finds the same however the history goes on.
-/

namespace CounterMachine.Library.Catalog

variable {catalog next : Catalog} {operation : Operation} {answer : Except Error Reply}
  {history later : List Operation} {key : String} {entry : Entry} {reply : Entry → Reply}

theorem mem_keys : key ∈ catalog.keys ↔ ∃ entry, catalog.entries.lookup key = some entry := by
  rw [keys, List.mem_mergeSort, List.mem_map, ← Option.isSome_iff_exists, List.lookup_isSome_iff]
  refine exists_congr fun found => and_congr_right fun _ => ?_
  rw [beq_iff_eq, eq_comm]

theorem notMem_keys : key ∉ catalog.keys ↔ catalog.entries.lookup key = none := by
  rw [mem_keys, not_exists, Option.eq_none_iff_forall_ne_some]

/-- The operation looks a name up and answers from the entry that it finds. -/
inductive Asks (key : String) : Operation → (Entry → Reply) → Prop where
  | build : Asks key (.build key) fun entry => .program entry.program
  | initialMachine (x y : Int) :
      Asks key (.initialMachine key x y) fun entry => .machine ⟨0, entry.counters x y⟩

/-- What one operation answers, and the catalog it leaves. -/
inductive Performed (catalog : Catalog) : Operation → Except Error Reply → Catalog → Prop where
  /-- A frozen catalog takes no entry, whether the name is new or not. -/
  | closed (key : String) (entry : Entry) (isFrozen : catalog.frozen = true) :
      Performed catalog (.register key entry) (.error .frozen) catalog
  | taken (key : String) (entry other : Entry) (isOpen : ¬ catalog.frozen = true)
      (found : catalog.entries.lookup key = some other) :
      Performed catalog (.register key entry) (.error (.registered key)) catalog
  | added (key : String) (entry : Entry) (isOpen : ¬ catalog.frozen = true)
      (fresh : catalog.entries.lookup key = none) :
      Performed catalog (.register key entry) (.ok .done)
        { catalog with entries := catalog.entries ++ [(key, entry)] }
  | frozen : Performed catalog .freeze (.ok .done) catalog.freeze
  | known {key : String} {operation : Operation} {reply : Entry → Reply} (entry : Entry)
      (asks : Asks key operation reply) (found : catalog.entries.lookup key = some entry) :
      Performed catalog operation (.ok (reply entry)) catalog
  | unknown {key : String} {operation : Operation} {reply : Entry → Reply}
      (asks : Asks key operation reply) (absent : catalog.entries.lookup key = none) :
      Performed catalog operation (.error (.unknown key)) catalog
  | listed : Performed catalog .keys (.ok (.keys catalog.keys)) catalog
  | told : Performed catalog .isFrozen (.ok (.truth catalog.frozen)) catalog

theorem Asks.perform_eq (asks : Asks key operation reply) :
    catalog.perform operation = ((catalog.entry key).map reply, catalog) := by
  cases asks with
  | build =>
      rw [perform, Catalog.build]
      cases catalog.entry key <;> rfl
  | initialMachine x y =>
      rw [perform, Catalog.initialMachine]
      cases catalog.entry key <;> rfl

theorem Asks.performed (asks : Asks key operation reply) :
    catalog.Performed operation (catalog.perform operation).1 (catalog.perform operation).2 := by
  rw [asks.perform_eq, Catalog.entry]
  cases found : catalog.entries.lookup key with
  | none => exact .unknown asks found
  | some entry => exact .known entry asks found

theorem performed (catalog : Catalog) (operation : Operation) :
    catalog.Performed operation (catalog.perform operation).1 (catalog.perform operation).2 := by
  cases operation with
  | register key entry =>
      rw [perform, register]
      by_cases isFrozen : catalog.frozen = true
      · rw [if_pos isFrozen]
        exact .closed key entry isFrozen
      · rw [if_neg isFrozen]
        cases found : catalog.entries.lookup key with
        | none => exact .added key entry isFrozen found
        | some other => exact .taken key entry other isFrozen found
  | freeze => exact .frozen
  | build key => exact Asks.build.performed
  | initialMachine key x y => exact (Asks.initialMachine x y).performed
  | keys => exact .listed
  | isFrozen => exact .told

namespace Performed

theorem eq_of_error {error : Error} (performed : catalog.Performed operation (.error error) next) :
    next = catalog := by
  cases performed <;> rfl

/-- In a frozen catalog nothing changes any more. -/
theorem eq_of_frozen (performed : catalog.Performed operation answer next)
    (isFrozen : catalog.frozen = true) : next = catalog := by
  cases performed with
  | added key entry isOpen => exact absurd isFrozen isOpen
  | frozen => rw [freeze, ← isFrozen]
  | closed | taken | known | unknown | listed | told => rfl

theorem frozen_iff (performed : catalog.Performed operation answer next) :
    next.frozen = true ↔ catalog.frozen = true ∨ .freeze = operation := by
  cases performed with
  | frozen => simp [freeze]
  | known entry asks | unknown asks => cases asks <;> simp
  | closed | taken | added | listed | told => simp

/-- A name has the entry that it had, or the one that the operation has registered under it. -/
theorem lookup_iff (performed : catalog.Performed operation answer next) :
    next.entries.lookup key = some entry ↔
      catalog.entries.lookup key = some entry ∨
        operation = .register key entry ∧ answer = .ok .done := by
  cases performed with
  | added name registered isOpen fresh =>
      rw [List.lookup_append, Option.or_eq_some_iff]
      by_cases same : key = name
      · subst same
        simp [fresh]
      · have differs : (key == name) = false := beq_false_of_ne same
        simp [List.lookup_cons, differs, Ne.symm same]
  | known found asks => cases asks <;> simp
  | closed | taken | frozen | unknown | listed | told => simp [freeze]

/-- No name is given twice. -/
theorem nodup (performed : catalog.Performed operation answer next)
    (distinct : (catalog.entries.map Prod.fst).Nodup) : (next.entries.map Prod.fst).Nodup := by
  cases performed with
  | added key entry isOpen fresh =>
      have absent : key ∉ catalog.entries.map Prod.fst := by
        intro member
        obtain ⟨found, inside, rfl⟩ := List.mem_map.1 member
        simpa using List.lookup_eq_none_iff.1 fresh found inside
      rw [List.map_append]
      refine List.nodup_append.2 ⟨distinct, by simp, ?_⟩
      intro name member last isLast same
      rw [List.map_singleton, List.mem_singleton] at isLast
      rw [same, isLast] at member
      exact absent member
  | closed | taken | frozen | known | unknown | listed | told => exact distinct

end Performed

/-- Being frozen counts before the name does; a registration that meets neither succeeds. -/
theorem register_answers (catalog : Catalog) (key : String) (entry : Entry) :
    ((catalog.perform (.register key entry)).1 = .error .frozen ↔ catalog.frozen = true) ∧
    ((catalog.perform (.register key entry)).1 = .error (.registered key) ↔
      ¬ catalog.frozen = true ∧ key ∈ catalog.keys) ∧
    ((catalog.perform (.register key entry)).1 = .ok .done ↔
      ¬ catalog.frozen = true ∧ key ∉ catalog.keys) := by
  have performed := catalog.performed (.register key entry)
  generalize (catalog.perform (.register key entry)).1 = answer,
    (catalog.perform (.register key entry)).2 = next at performed ⊢
  cases performed with
  | closed _ _ isFrozen => simp [isFrozen]
  | taken _ _ other isOpen found => simp [isOpen, mem_keys, found]
  | added _ _ isOpen fresh => simp [isOpen, mem_keys, fresh]
  | known _ asks | unknown asks => nomatch asks

/-- What is asked is answered from the entry under the name, and a name without one is unknown. -/
theorem Asks.answers (asks : Asks key operation reply) (catalog : Catalog) :
    (∀ entry, catalog.entries.lookup key = some entry →
      (catalog.perform operation).1 = .ok (reply entry)) ∧
    ((catalog.perform operation).1 = .error (.unknown key) ↔ key ∉ catalog.keys) := by
  rw [asks.perform_eq, notMem_keys, Catalog.entry]
  cases catalog.entries.lookup key <;> simp [Except.map]

/-! ## Histories -/

/-- The catalog after a history of operations, whether they succeed or fail. -/
def after (catalog : Catalog) (history : List Operation) : Catalog :=
  history.foldl (fun current operation => (current.perform operation).2) catalog

theorem after_cons (catalog : Catalog) (operation : Operation) (history : List Operation) :
    catalog.after (operation :: history) = (catalog.perform operation).2.after history :=
  rfl

theorem after_append (catalog : Catalog) (history later : List Operation) :
    catalog.after (history ++ later) = (catalog.after history).after later :=
  List.foldl_append

/-- What every operation keeps, a history keeps. -/
theorem after_preserves (Invariant : Catalog → Prop)
    (kept : ∀ catalog operation, Invariant catalog → Invariant (catalog.perform operation).2)
    (catalog : Catalog) (history : List Operation) (holds : Invariant catalog) :
    Invariant (catalog.after history) :=
  List.foldlRecOn history _ holds fun current holds operation _ => kept current operation holds

theorem nodup_after (distinct : (catalog.entries.map Prod.fst).Nodup) :
    ((catalog.after history).entries.map Prod.fst).Nodup :=
  after_preserves (fun current => (current.entries.map Prod.fst).Nodup)
    (fun current operation => (current.performed operation).nodup) catalog history distinct

/-- Nothing that is done to a frozen catalog changes it. -/
theorem after_of_frozen (isFrozen : catalog.frozen = true) : catalog.after history = catalog := by
  refine after_preserves (fun current => current = catalog) ?_ catalog history rfl
  rintro _ operation rfl
  exact (performed _ operation).eq_of_frozen isFrozen

theorem frozen_after :
    (catalog.after history).frozen = true ↔ catalog.frozen = true ∨ .freeze ∈ history := by
  induction history generalizing catalog with
  | nil => simp [after]
  | cons operation history ih =>
      rw [after_cons, ih, (catalog.performed operation).frozen_iff, List.mem_cons, or_assoc]

/-- A history gives a name the entry that it has from the start, or else the first that is
registered under it, if the catalog has not been frozen by then. -/
inductive Defines (catalog : Catalog) (history : List Operation) (key : String) (entry : Entry) :
    Prop where
  | kept (found : catalog.entries.lookup key = some entry)
  | registered (before later : List Operation)
      (split : history = before ++ .register key entry :: later)
      (fresh : catalog.entries.lookup key = none)
      (first : ∀ other, .register key other ∉ before)
      (isOpen : ¬ catalog.frozen = true) (unfrozen : .freeze ∉ before)

/-- What has been defined once is defined for good. -/
theorem Defines.append (defines : catalog.Defines history key entry) (later : List Operation) :
    catalog.Defines (history ++ later) key entry := by
  cases defines with
  | kept found => exact .kept found
  | registered before rest split fresh first isOpen unfrozen =>
      exact .registered before (rest ++ later) (by simp [split]) fresh first isOpen unfrozen

theorem defines_nil : catalog.Defines [] key entry ↔ catalog.entries.lookup key = some entry := by
  constructor
  · intro defines
    cases defines with
    | kept found => exact found
    | registered before later split => simp at split
  · exact .kept

/-- An operation on an open catalog leaves a name free if it was free before, unless it registers
the name. -/
theorem lookup_perform_eq_none (isOpen : ¬ catalog.frozen = true) :
    (catalog.perform operation).2.entries.lookup key = none ↔
      catalog.entries.lookup key = none ∧ ∀ entry, .register key entry ≠ operation := by
  simp only [Option.eq_none_iff_forall_ne_some, ne_eq, (catalog.performed operation).lookup_iff,
    not_or, forall_and]
  refine and_congr_right fun fresh => forall_congr' fun entry => not_congr ?_
  constructor
  · exact fun succeeds => succeeds.1.symm
  · rintro rfl
    have free : key ∉ catalog.keys := notMem_keys.2 (Option.eq_none_iff_forall_ne_some.2 fresh)
    exact ⟨rfl, (register_answers catalog key entry).2.2.2 ⟨isOpen, free⟩⟩

/-- Once its first operation is done, a history goes on to define what it defines as a whole. -/
theorem defines_cons :
    catalog.Defines (operation :: history) key entry ↔
      (catalog.perform operation).2.Defines history key entry := by
  have performed := catalog.performed operation
  constructor
  · intro defines
    cases defines with
    | kept found => exact .kept (performed.lookup_iff.2 (.inl found))
    | registered before later split fresh first isOpen unfrozen =>
        -- The registration is either the first operation itself or left to the rest of the history.
        cases before with
        | nil =>
            obtain ⟨rfl, rfl⟩ := List.cons.inj split
            have done := (register_answers catalog key entry).2.2.2 ⟨isOpen, notMem_keys.2 fresh⟩
            exact .kept (performed.lookup_iff.2 (.inr ⟨rfl, done⟩))
        | cons operation before =>
            obtain ⟨rfl, rfl⟩ := List.cons.inj split
            simp only [List.mem_cons, not_or] at first unfrozen
            refine .registered before later rfl ?_ (fun other => (first other).2) ?_ unfrozen.2
            · exact (lookup_perform_eq_none isOpen).2 ⟨fresh, fun other => (first other).1⟩
            · rw [performed.frozen_iff]
              exact not_or.2 ⟨isOpen, unfrozen.1⟩
  · intro defines
    cases defines with
    | kept found =>
        rcases performed.lookup_iff.1 found with found | ⟨rfl, done⟩
        · exact .kept found
        · obtain ⟨isOpen, free⟩ := (register_answers catalog key entry).2.2.1 done
          exact .registered [] history rfl (notMem_keys.1 free) (by simp) isOpen (by simp)
    | registered before later split fresh first isOpen unfrozen =>
        -- The first operation has registered nothing under the name, which is still free after it.
        rw [performed.frozen_iff, not_or] at isOpen
        obtain ⟨free, differs⟩ := (lookup_perform_eq_none isOpen.1).1 fresh
        have split : operation :: history = (operation :: before) ++ .register key entry :: later :=
          congrArg (operation :: ·) split
        refine .registered _ later split free ?_ isOpen.1 ?_
        · exact fun other => List.not_mem_cons_of_ne_of_not_mem (differs other) (first other)
        · exact List.not_mem_cons_of_ne_of_not_mem isOpen.2 unfrozen

/-- Looking a name up after a history finds what the history defines. -/
theorem lookup_after :
    (catalog.after history).entries.lookup key = some entry ↔
      catalog.Defines history key entry := by
  induction history generalizing catalog with
  | nil => exact defines_nil.symm
  | cons operation history ih => rw [after_cons, ih, defines_cons]

/-- The names after a history are those from the start and those whose registration succeeded. -/
theorem mem_keys_after :
    key ∈ (catalog.after history).keys ↔
      key ∈ catalog.keys ∨ ∃ before entry later, history = before ++ .register key entry :: later ∧
        ((catalog.after before).perform (.register key entry)).1 = .ok .done := by
  simp only [mem_keys, lookup_after]
  constructor
  · rintro ⟨entry, found | ⟨before, later, split, fresh, first, isOpen, unfrozen⟩⟩
    · exact .inl ⟨entry, found⟩
    · have free : key ∉ (catalog.after before).keys := by
        simp only [mem_keys, lookup_after, not_exists]
        rintro other (found | ⟨earlier, rest, rfl⟩)
        · simp [fresh] at found
        · exact first other (by simp)
      have stillOpen : ¬ (catalog.after before).frozen = true := by
        rw [frozen_after]
        exact not_or.2 ⟨isOpen, unfrozen⟩
      have done := (register_answers _ key entry).2.2.2 ⟨stillOpen, free⟩
      exact .inr ⟨before, entry, later, split, done⟩
  · rintro (⟨entry, found⟩ | ⟨before, entry, later, rfl, done⟩)
    · exact ⟨entry, .kept found⟩
    · have found := ((catalog.after before).performed (.register key entry)).lookup_iff.2
        (.inr ⟨rfl, done⟩)
      refine ⟨entry, lookup_after.1 ?_⟩
      rw [after_append, after_cons]
      exact lookup_after.2 (.kept found)

/-- However the catalog of the arithmetic programs is used, a name keeps the program and the
counters with which it was first registered. A registration is refused exactly after a freeze and,
short of that, exactly if the name is taken. What fails changes nothing, and after a freeze nothing
changes.

The names are at all times those of the arithmetic programs and those whose registration has
succeeded; programs and machines are unknown exactly under all other names. -/
theorem definitions_last_and_freezing_is_final (history : List Operation) :
    let catalog := arithmetic.after history
    (∀ key entry, arithmetic.Defines history key entry → ∀ later,
      key ∈ (arithmetic.after (history ++ later)).keys ∧
      ((arithmetic.after (history ++ later)).perform (.build key)).1 =
        .ok (.program entry.program) ∧
      ∀ x y, ((arithmetic.after (history ++ later)).perform (.initialMachine key x y)).1 =
        .ok (.machine ⟨0, entry.counters x y⟩)) ∧
    (∀ key entry,
      ((catalog.perform (.register key entry)).1 = .error .frozen ↔ .freeze ∈ history) ∧
      ((catalog.perform (.register key entry)).1 = .error (.registered key) ↔
        .freeze ∉ history ∧ key ∈ catalog.keys) ∧
      ((catalog.perform (.register key entry)).1 = .ok .done ↔
        .freeze ∉ history ∧ key ∉ catalog.keys)) ∧
    (∀ operation error, (catalog.perform operation).1 = .error error →
      (catalog.perform operation).2 = catalog) ∧
    (.freeze ∈ history → ∀ later, arithmetic.after (history ++ later) = catalog) ∧
    (∃ answer, (catalog.perform .isFrozen).1 = .ok (.truth answer) ∧
      (answer = true ↔ .freeze ∈ history)) ∧
    ((catalog.perform .keys).1 = .ok (.keys catalog.keys) ∧ catalog.keys.Nodup) ∧
    (∀ key, (key ∈ catalog.keys ↔ ∃ entry, arithmetic.Defines history key entry) ∧
      (key ∈ catalog.keys ↔ key ∈ ["adder", "mult", "six_rule_mult"] ∨
        ∃ before entry later, history = before ++ .register key entry :: later ∧
          ((arithmetic.after before).perform (.register key entry)).1 = .ok .done)) ∧
    ∀ key, ((catalog.perform (.build key)).1 = .error (.unknown key) ↔ key ∉ catalog.keys) ∧
      ∀ x y, (catalog.perform (.initialMachine key x y)).1 = .error (.unknown key) ↔
        key ∉ catalog.keys := by
  intro catalog
  have isFrozen : catalog.frozen = true ↔ .freeze ∈ history := by
    simp [catalog, frozen_after, arithmetic]
  refine ⟨?_, ?_, ?_, ?_, ?_, ?_, ?_, ?_⟩
  · intro key entry defines later
    have found := lookup_after.2 (defines.append later)
    exact ⟨mem_keys.2 ⟨entry, found⟩, (Asks.build.answers _).1 entry found,
      fun x y => ((Asks.initialMachine x y).answers _).1 entry found⟩
  · intro key entry
    rw [← isFrozen]
    exact register_answers catalog key entry
  · intro operation error failed
    exact (failed ▸ catalog.performed operation).eq_of_error
  · intro frozen later
    rw [after_append]
    exact after_of_frozen (isFrozen.2 frozen)
  · exact ⟨catalog.frozen, rfl, isFrozen⟩
  · have distinct : (catalog.entries.map Prod.fst).Nodup := nodup_after (by decide)
    exact ⟨rfl, (List.mergeSort_perm _ _).nodup_iff.2 distinct⟩
  · intro key
    have initial : key ∈ arithmetic.keys ↔ key ∈ ["adder", "mult", "six_rule_mult"] :=
      List.mem_mergeSort
    rw [← initial]
    exact ⟨by simp only [catalog, mem_keys, lookup_after], mem_keys_after⟩
  · intro key
    exact ⟨(Asks.build.answers catalog).2, fun x y => ((Asks.initialMachine x y).answers catalog).2⟩

/-- One name registered twice, one that the arithmetic programs have, and one that comes too
late. -/
theorem definitions_last_after_refusals :
    let double : Entry := ⟨adderProgram, fun x _ => [x, x]⟩
    let other : Entry := ⟨multiplierProgram, multiplierCounters⟩
    let history : List Operation := [.register "double" double, .register "adder" other,
      .register "double" other, .freeze, .register "late" other]
    let catalog := arithmetic.after history
    arithmetic.Defines history "double" double ∧
    arithmetic.Defines history "adder" ⟨adderProgram, adderCounters⟩ ∧ .freeze ∈ history ∧
    (catalog.perform (.build "double")).1 = .ok (.program adderProgram) ∧
    (catalog.perform (.initialMachine "double" 3 4)).1 = .ok (.machine ⟨0, [3, 3]⟩) ∧
    (catalog.perform (.initialMachine "adder" 3 4)).1 = .ok (.machine ⟨0, [3, 4]⟩) ∧
    (catalog.perform (.build "late")).1 = .error (.unknown "late") ∧
    (catalog.perform (.register "late" other)).1 = .error .frozen ∧
    (catalog.perform (.register "late" other)).2 = catalog ∧
    arithmetic.after (history ++ [.register "double" other]) = catalog := by
  intro double other history catalog
  obtain ⟨lasting, registers, unchanged, final, -, -, -, unknown⟩ :=
    definitions_last_and_freezing_is_final history
  have doubled : arithmetic.Defines history "double" double :=
    .registered [] _ rfl (by decide) (by simp) (by decide) (by simp)
  have adder : arithmetic.Defines history "adder" ⟨adderProgram, adderCounters⟩ := .kept rfl
  have frozen : .freeze ∈ history := by simp [history]
  have late : "late" ∉ catalog.keys := notMem_keys.2 rfl
  have refused := (registers "late" other).1.2 frozen
  obtain ⟨-, built, started⟩ := lasting "double" double doubled []
  obtain ⟨-, -, added⟩ := lasting "adder" _ adder []
  exact ⟨doubled, adder, frozen, built, started 3 4, added 3 4, (unknown "late").1.2 late,
    refused, unchanged _ _ refused, final frozen _⟩

end CounterMachine.Library.Catalog
