import CounterMachine.Proofs.Simulation
import Mathlib.Data.List.Forall2

/-!
# Replaying a run firing by firing

Every firing of a program is replayed by its single-state form in a block of one or two firings:
the work rule, and after a self-loop one return rule. Blocks put one after another replay a whole
run, halting or not. Read backwards, whatever the single-state form has fired is a replay of the
firings that its work rules stand for, up to one return that may still be pending.
-/

namespace CounterMachine.Elimination

variable {program : Program} {rule : Rule} {machine after final current start : Machine}
  {index count : Nat} {indices positions : List Nat}

/-- The firings of the single-state form that replay the firing of the rule at an index. -/
inductive Replays (program : Program) : Nat → List Nat → Prop where
  | change {index : Nat} {rule : Rule} (found : program.rules[index]? = some rule)
      (changes : rule.isSelfLoop = false) : Replays program index [workPosition program index]
  /-- The return rule may belong to another self-loop of the same state. -/
  | loop {index back : Nat} {rule other : Rule} (found : program.rules[index]? = some rule)
      (loops : rule.isSelfLoop = true) (otherFound : program.rules[back]? = some other)
      (otherLoops : other.isSelfLoop = true) (same : other.source = rule.source) :
      Replays program index [workPosition program index, workPosition program back + 1]

theorem exists_split (found : program.rules[index]? = some rule) :
    ∃ before rest, program.rules = before ++ rule :: rest ∧ before.length = index := by
  obtain ⟨inside, rfl⟩ := List.getElem?_eq_some_iff.1 found
  refine ⟨program.rules.take index, program.rules.drop (index + 1), ?_, ?_⟩
  · rw [List.getElem_cons_drop, List.take_append_drop]
  · rw [List.length_take]
    omega

theorem exists_split_of_returns {rules : List Rule} {position : Nat}
    (returning : (returns rules)[position]? = some true) :
    ∃ before rule rest, rules = before ++ rule :: rest ∧ rule.isSelfLoop = true ∧
      position = (returns before).length + 1 := by
  induction rules generalizing position with
  | nil => simp [returns] at returning
  | cons rule rest ih =>
      rw [returns_cons] at returning
      cases position with
      | zero => simp at returning
      | succ position =>
          rw [List.getElem?_cons_succ] at returning
          by_cases loop : rule.isSelfLoop = true
          · cases position with
            | zero => exact ⟨[], rule, rest, rfl, loop, rfl⟩
            | succ position =>
                rw [if_pos loop] at returning
                obtain ⟨before, other, others, rfl, otherLoop, rfl⟩ := ih returning
                refine ⟨rule :: before, other, others, rfl, otherLoop, ?_⟩
                rw [returns_cons, if_pos loop]
                simp
          · rw [if_neg loop] at returning
            obtain ⟨before, other, others, rfl, otherLoop, rfl⟩ := ih returning
            refine ⟨rule :: before, other, others, rfl, otherLoop, ?_⟩
            rw [returns_cons, if_neg loop]
            simp

theorem isReturn_eq_true_iff {position : Nat} :
    isReturn program position = true ↔
      ∃ index rule, program.rules[index]? = some rule ∧ rule.isSelfLoop = true ∧
        position = workPosition program index + 1 := by
  constructor
  · intro returning
    rw [isReturn, Option.getD_eq_iff] at returning
    obtain ⟨before, rule, rest, split, loop, rfl⟩ :=
      exists_split_of_returns (by simpa using returning)
    exact ⟨before.length, rule, by simp [split], loop, by rw [workPosition_of_split split]⟩
  · rintro ⟨index, rule, found, loop, rfl⟩
    obtain ⟨before, rest, split, rfl⟩ := exists_split found
    exact isReturn_workPosition_succ split loop

namespace Replays

variable {block : List Nat}

theorem length_eq (replays : Replays program index block) :
    block.length = 1 + if loopsAt program index then 1 else 0 := by
  cases replays with
  | change found changes => simp [loopsAt, found, changes]
  | loop found loops otherFound otherLoops same => simp [loopsAt, found, loops]

theorem filter_eq (replays : Replays program index block) :
    block.filter (fun position => !isReturn program position) = [workPosition program index] := by
  cases replays with
  | change found changes =>
      obtain ⟨before, rest, split, rfl⟩ := exists_split found
      simp [isReturn_workPosition split]
  | loop found loops otherFound otherLoops same =>
      obtain ⟨before, rest, split, rfl⟩ := exists_split found
      obtain ⟨otherBefore, otherRest, otherSplit, rfl⟩ := exists_split otherFound
      simp [isReturn_workPosition split, isReturn_workPosition_succ otherSplit otherLoops]

end Replays

theorem length_flatten_of_replays {blocks : List (List Nat)}
    (replays : List.Forall₂ (Replays program) indices blocks) :
    blocks.flatten.length = indices.length + indices.countP (loopsAt program) := by
  induction replays with
  | nil => rfl
  | cons first rest ih =>
      rw [List.flatten_cons, List.length_append, first.length_eq, ih, List.length_cons,
        List.countP_cons]
      omega

theorem filter_flatten_of_replays {blocks : List (List Nat)}
    (replays : List.Forall₂ (Replays program) indices blocks) :
    blocks.flatten.filter (fun position => !isReturn program position) =
      indices.map (workPosition program) := by
  induction replays with
  | nil => rfl
  | cons first rest ih =>
      rw [List.flatten_cons, List.filter_append, first.filter_eq, ih]
      rfl

/-! ## Forwards -/

section Run

variable (wellFormed : program.WellFormed) (fits : machine.Fits program.tapes)
include wellFormed fits

/-- One firing is replayed by one block. -/
theorem firings_block (fired : program.scan machine = .fired index rule after)
    (reached : (singleForm program).firings start count =
      some (positions, encoded program machine)) :
    ∃ block, Replays program index block ∧
      (singleForm program).firings start (count + block.length) =
        some (positions ++ block, encoded program after) := by
  obtain ⟨before, rest, selects, rfl, -, after_eq⟩ := Program.scan_fired wellFormed fits fired
  have work := scan_encoded_of_fired wellFormed fits fired
  have worked := Program.firings_succ_of_fired reached work
  by_cases loop : rule.isSelfLoop = true
  · have same : rule.source = after.state := by
      rw [after_eq]
      exact Rule.isSelfLoop_eq_true.1 loop
    rw [if_pos loop] at worked
    obtain ⟨back, other, otherFound, otherLoop, otherSame, returned⟩ :=
      scan_relayed wellFormed (Program.fits_of_fired wellFormed fits fired) selects.mem loop same
    refine ⟨_, .loop selects.getElem? loop otherFound otherLoop (otherSame.trans same.symm), ?_⟩
    simpa using Program.firings_succ_of_fired worked returned
  · rw [if_neg loop] at worked
    exact ⟨_, .change selects.getElem? (eq_false_of_ne_true loop), by simpa using worked⟩

/-- A run is replayed by the blocks of its firings. -/
theorem firings_encoded (reached : program.firings machine count = some (indices, final)) :
    ∃ blocks, List.Forall₂ (Replays program) indices blocks ∧
      (singleForm program).firings (encoded program machine) blocks.flatten.length =
        some (blocks.flatten, encoded program final) := by
  refine Program.firings_preserves (fun _ indices final =>
    ∃ blocks, List.Forall₂ (Replays program) indices blocks ∧
      (singleForm program).firings (encoded program machine) blocks.flatten.length =
        some (blocks.flatten, encoded program final)) ⟨[], .nil, rfl⟩ ?_ reached
  rintro count indices middle index rule after before fired ⟨blocks, replays, replayed⟩
  obtain ⟨block, replaysBlock, extended⟩ := firings_block wellFormed
    (Program.fits_of_firings wellFormed fits before) fired replayed
  refine ⟨blocks ++ [block], List.rel_append replays (.cons replaysBlock .nil), ?_⟩
  simpa using extended

end Run

/-! ## Backwards -/

/-- A machine of the single-state form stands for the machine that has been reached: it is its
encoding, or the return of a self-loop is still pending. -/
inductive Emulates (program : Program) (reached : Machine) : Machine → Prop where
  | settled : Emulates program reached (encoded program reached)
  | pending {loop : Rule} (member : loop ∈ program.rules) (loops : loop.isSelfLoop = true)
      (same : loop.source = reached.state) : Emulates program reached (relayed program reached)

section Emulates

variable {reached : Machine} (wellFormed : program.WellFormed) (fits : reached.Fits program.tapes)
include wellFormed fits

/-- A firing of the single-state form is the work of a firing of the program, or a return. -/
theorem Emulates.fired {position : Nat} (emulates : Emulates program reached current)
    (fired : (singleForm program).scan current = .fired position rule after) :
    (isReturn program position = true ∧ Emulates program reached after) ∨
      (isReturn program position = false ∧
        ∃ index source next, program.scan reached = .fired index source next ∧
          Emulates program next after) := by
  cases emulates with
  | settled =>
      right
      cases scanned : program.scan reached with
      | halted => simp [scan_encoded_of_halted wellFormed fits scanned] at fired
      | faulted fault left => simp [scan_encoded_of_faulted wellFormed fits scanned] at fired
      | fired index source next =>
          obtain ⟨before, rest, selects, rfl, -, next_eq⟩ :=
            Program.scan_fired wellFormed fits scanned
          rw [scan_encoded_of_fired wellFormed fits scanned, Scan.fired.injEq] at fired
          obtain ⟨rfl, -, rfl⟩ := fired
          refine ⟨isReturn_workPosition selects.split, before.length, source, next, rfl, ?_⟩
          split
          next loop =>
            refine .pending selects.mem loop ?_
            rw [next_eq]
            exact Rule.isSelfLoop_eq_true.1 loop
          next => exact .settled
  | pending member loops same =>
      left
      obtain ⟨back, other, otherFound, otherLoop, -, returned⟩ :=
        scan_relayed wellFormed fits member loops same
      rw [returned, Scan.fired.injEq] at fired
      obtain ⟨rfl, -, rfl⟩ := fired
      exact ⟨isReturn_eq_true_iff.2 ⟨back, other, otherFound, otherLoop, rfl⟩, .settled⟩

theorem Emulates.halted (emulates : Emulates program reached current)
    (halted : (singleForm program).scan current = .halted) :
    current = encoded program reached ∧ program.scan reached = .halted := by
  cases emulates with
  | settled =>
      refine ⟨rfl, ?_⟩
      cases scanned : program.scan reached with
      | halted => rfl
      | faulted fault left => simp [scan_encoded_of_faulted wellFormed fits scanned] at halted
      | fired index source next => simp [scan_encoded_of_fired wellFormed fits scanned] at halted
  | pending member loops same =>
      obtain ⟨back, other, -, -, -, returned⟩ := scan_relayed wellFormed fits member loops same
      simp [returned] at halted

theorem Emulates.faulted {fault : Fault} (emulates : Emulates program reached current)
    (faulted : (singleForm program).scan current = .faulted fault after) :
    program.scan reached = .faulted fault reached := by
  cases emulates with
  | settled =>
      cases scanned : program.scan reached with
      | halted => simp [scan_encoded_of_halted wellFormed fits scanned] at faulted
      | faulted other left =>
          obtain ⟨-, -, -, -, -, rfl⟩ := Program.scan_faulted wellFormed fits scanned
          rw [scan_encoded_of_faulted wellFormed fits scanned, Scan.faulted.injEq] at faulted
          rw [faulted.1]
      | fired index source next => simp [scan_encoded_of_fired wellFormed fits scanned] at faulted
  | pending member loops same =>
      obtain ⟨back, other, -, -, -, returned⟩ := scan_relayed wellFormed fits member loops same
      simp [returned] at faulted

end Emulates

/-- Whatever the single-state form has fired, it stands for the program after as many firings as
there were work rules. -/
theorem emulates_of_firings (wellFormed : program.WellFormed) (fits : machine.Fits program.tapes)
    (replayed : (singleForm program).firings (encoded program machine) count =
      some (positions, current)) :
    ∃ indices reached,
      program.firings machine (positions.countP fun position => !isReturn program position) =
        some (indices, reached) ∧ Emulates program reached current := by
  refine Program.firings_preserves (fun _ positions current =>
    ∃ indices reached,
      program.firings machine (positions.countP fun position => !isReturn program position) =
        some (indices, reached) ∧ Emulates program reached current)
    ⟨[], machine, rfl, .settled⟩ ?_ replayed
  rintro count positions middle position rule after before fired ⟨indices, reached, ran, emulates⟩
  have reachedFits := Program.fits_of_firings wellFormed fits ran
  rw [List.countP_append, List.countP_singleton]
  rcases emulates.fired wellFormed reachedFits fired with
    ⟨returning, stays⟩ | ⟨working, index, source, next, scanned, moved⟩
  · simp only [returning, Bool.not_true]
    exact ⟨indices, reached, ran, stays⟩
  · simp only [working, Bool.not_false, ↓reduceIte]
    exact ⟨_, next, Program.firings_succ_of_fired ran scanned, moved⟩

/-- Where a single-state form has the rules that are emitted for each rule of its source. -/
structure LaidOut (program single : Program) : Prop where
  work : ∀ index rule, program.rules[index]? = some rule →
    ∃ work others, encodeRule (numbering program) program.tapes (tapeCount program) rule =
        .ok (work :: others) ∧
      single.rules[workPosition program index]? = some work ∧
      if rule.isSelfLoop then
        ∃ back, others = [back] ∧ single.rules[workPosition program index + 1]? = some back
      else others = []
  returns : ∀ position, isReturn program position = true ↔
    ∃ index rule, program.rules[index]? = some rule ∧ rule.isSelfLoop = true ∧
      position = workPosition program index + 1

theorem laidOut_singleForm (wellFormed : program.WellFormed) :
    LaidOut program (singleForm program) where
  work := by
    intro index rule found
    obtain ⟨before, rest, split, rfl⟩ := exists_split found
    refine ⟨workRule program rule, _, encodeRule_eq wellFormed (by simp [split]), ?_, ?_⟩
    · rw [workPosition_of_split split, rules_singleForm_of_split split,
        ← length_flatMap_emitted program]
      simp
    · by_cases loop : rule.isSelfLoop = true
      · rw [if_pos loop, if_pos loop]
        refine ⟨returnRule program rule.source, rfl, ?_⟩
        rw [workPosition_of_split split, rules_singleForm_of_split split, if_pos loop,
          ← length_flatMap_emitted program]
        simp
      · rw [if_neg loop, if_neg loop]
  returns := fun _ => isReturn_eq_true_iff

/-- The single-state form replays every run of every valid program from every valid machine, firing
by firing and for as long as the run goes: it reaches the encoding of every machine that the run
reaches, its work rules are those of the rules that fire, and every self-loop is followed by one
return to its own state. -/
theorem singleForm_replays_firings (draft : DraftProgram) (program : Program)
    (valid : draft.accept = .ok program) (machineDraft : DraftMachine) (machine : Machine)
    (machineValid : machineDraft.accept program.tapes = .ok machine) :
    ∃ single first, eliminate draft = .ok single ∧ eliminateMachine machineDraft draft = .ok first ∧
      LaidOut program single ∧
      ∀ count indices final, program.firings machine count = some (indices, final) →
        ∃ last blocks, eliminateMachine final.toDraft draft = .ok last ∧
          single.firings first (count + indices.countP (loopsAt program)) =
            some (blocks.flatten, last) ∧
          blocks.flatten.filter (fun position => !isReturn program position) =
            indices.map (workPosition program) ∧
          List.Forall₂ (Replays program) indices blocks := by
  obtain ⟨rfl, wellFormed⟩ := DraftProgram.accept_eq_ok.1 valid
  obtain ⟨rfl, fits⟩ := DraftMachine.accept_eq_ok.1 machineValid
  refine ⟨singleForm program, encoded program machine, eliminate_eq wellFormed,
    eliminateMachine_eq wellFormed fits, laidOut_singleForm wellFormed, ?_⟩
  intro count indices final reached
  obtain ⟨blocks, replays, replayed⟩ := firings_encoded wellFormed fits reached
  refine ⟨encoded program final, blocks,
    eliminateMachine_eq wellFormed (Program.fits_of_firings wellFormed fits reached), ?_,
    filter_flatten_of_replays replays, replays⟩
  rw [← Program.length_of_firings reached, ← length_flatten_of_replays replays]
  exact replayed

/-- Two self-loops of one state and a change of state: five firings for three. -/
theorem singleForm_replays_two_loops :
    ∃ single first last blocks,
      eliminate (Program.toDraft ⟨2, [⟨0, 0, [-1, 0]⟩, ⟨0, 0, [0, -1]⟩, ⟨0, 1, [0, 0]⟩]⟩) =
        .ok single ∧
      eliminateMachine (Machine.toDraft ⟨0, [1, 1]⟩)
        (Program.toDraft ⟨2, [⟨0, 0, [-1, 0]⟩, ⟨0, 0, [0, -1]⟩, ⟨0, 1, [0, 0]⟩]⟩) = .ok first ∧
      eliminateMachine (Machine.toDraft ⟨1, [0, 0]⟩)
        (Program.toDraft ⟨2, [⟨0, 0, [-1, 0]⟩, ⟨0, 0, [0, -1]⟩, ⟨0, 1, [0, 0]⟩]⟩) = .ok last ∧
      single.firings first 5 = some (blocks.flatten, last) ∧
      List.Forall₂ (Replays ⟨2, [⟨0, 0, [-1, 0]⟩, ⟨0, 0, [0, -1]⟩, ⟨0, 1, [0, 0]⟩]⟩)
        [0, 1, 2] blocks := by
  obtain ⟨single, first, eliminated, encodedFirst, -, replay⟩ := singleForm_replays_firings
    (Program.toDraft ⟨2, [⟨0, 0, [-1, 0]⟩, ⟨0, 0, [0, -1]⟩, ⟨0, 1, [0, 0]⟩]⟩)
    ⟨2, [⟨0, 0, [-1, 0]⟩, ⟨0, 0, [0, -1]⟩, ⟨0, 1, [0, 0]⟩]⟩ rfl
    (Machine.toDraft ⟨0, [1, 1]⟩) ⟨0, [1, 1]⟩ rfl
  obtain ⟨last, blocks, encodedLast, fired, -, replays⟩ :=
    replay 3 [0, 1, 2] ⟨1, [0, 0]⟩ (by decide)
  exact ⟨single, first, last, blocks, eliminated, encodedFirst, encodedLast, fired, replays⟩

end CounterMachine.Elimination
