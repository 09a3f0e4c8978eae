import CounterMachine.Proofs.Numbering
import CounterMachine.Proofs.Safety
import Mathlib.Algebra.BigOperators.Group.List.Basic
import Mathlib.Algebra.Ring.Int.Defs

/-!
# Flags are moved, not made

Every rule of the single-state form takes `1` from one flag and gives `1` to another, so a firing
leaves the sum of all flags as it is. That does not depend on the machine: it may have been loaded
with any counters on the extra tapes, and it still ends a run with as many on them as it had.
-/

namespace CounterMachine.Elimination

variable {program : Program} {rule moving : Rule} {machine after final : Machine}
  {front : List Int} {origin destination : Int}

/-- A rule of the single-state form that adds the given amounts to the source tapes, takes `1` from
one of the extra tapes and gives `1` to another. -/
structure MovesToken (program : Program) (front : List Int) (origin destination : Int)
    (moving : Rule) : Prop where
  source_eq : moving.source = onlyState
  target_eq : moving.target = onlyState
  width_eq : (moving.width : Int) = program.tapes + 2 * program.stateCount
  front_eq : moving.adjustments.take program.tapes.toNat = front
  origin_mem : origin ∈ flagTapes program.tapes program.stateCount
  destination_mem : destination ∈ flagTapes program.tapes program.stateCount
  origin_ne : origin ≠ destination
  entries : ∀ tape ∈ flagTapes program.tapes program.stateCount,
    entry? moving.adjustments tape =
      some (if tape = origin then -1 else if tape = destination then 1 else 0)

/-- What is emitted for a rule. A change of state moves the token from the active flag of one state
to that of the other. A self-loop moves it to the relay and, without touching the source tapes, back
again. -/
inductive Emits (program : Program) (rule : Rule) (source target : Int) : List Rule → Prop where
  | change {moving : Rule} (leaves : rule.source ≠ rule.target)
      (moves : MovesToken program rule.adjustments (activeTape program.tapes source)
        (activeTape program.tapes target) moving) : Emits program rule source target [moving]
  | loop {moving back : Rule} (stays : rule.source = rule.target)
      (moves : MovesToken program rule.adjustments (activeTape program.tapes source)
        (relayTape program.tapes source) moving)
      (returns : MovesToken program (List.replicate program.tapes.toNat 0)
        (relayTape program.tapes source) (activeTape program.tapes source) back) :
      Emits program rule source target [moving, back]

theorem movesToken_tokenRule {first second : Nat} (nonneg : 0 ≤ program.tapes)
    (width : (front.length : Int) = program.tapes)
    (firstLt : first < 2 * program.states.length) (secondLt : second < 2 * program.states.length)
    (different : first ≠ second) :
    MovesToken program front (program.tapes + first) (program.tapes + second)
      (tokenRule program front first second) := by
  have frontLength : program.tapes.toNat = front.length := by omega
  rw [program.length_states] at firstLt secondLt
  refine ⟨rfl, rfl, ?_, ?_, mem_flagTapes.2 (by omega), mem_flagTapes.2 (by omega), by omega, ?_⟩
  · simp only [Rule.width, tokenRule, onlyRule, List.length_append, length_transfer,
      program.length_states]
    omega
  · simp [tokenRule, onlyRule, frontLength]
  · intro tape member
    obtain ⟨atLeast, below⟩ := mem_flagTapes.1 member
    obtain ⟨offset, rfl⟩ : ∃ offset : Nat, tape = ((front.length + offset : Nat) : Int) :=
      ⟨(tape - program.tapes).toNat, by omega⟩
    have inside : offset < 2 * program.states.length := by
      rw [program.length_states]
      omega
    have position : front.length + offset <
        (front ++ transfer (2 * program.states.length) first second).length := by
      simp [inside]
    have isFirst : ((front.length + offset : Nat) : Int) = program.tapes + first ↔
        offset = first := by omega
    have isSecond : ((front.length + offset : Nat) : Int) = program.tapes + second ↔
        offset = second := by omega
    simp only [tokenRule, onlyRule, entry?, position?_natCast position, Option.bind_some,
      isFirst, isSecond]
    simp [transfer, inside]

theorem activeTape_rank (program : Program) (state : Int) :
    activeTape program.tapes (rank program state) = program.tapes + activeFlag program state := by
  simp [activeTape, activeFlag]

theorem relayTape_rank (program : Program) (state : Int) :
    relayTape program.tapes (rank program state) = program.tapes + relayFlag program state := by
  simp [relayTape, relayFlag, Int.add_assoc]

/-- The rules that are emitted for a rule of the program move the token as they should. -/
theorem emits_emitted (wellFormed : program.WellFormed) (member : rule ∈ program.rules) :
    Emits program rule (rank program rule.source) (rank program rule.target)
      (emitted program rule) := by
  have source : rule.source ∈ program.states := Program.source_mem_states member
  have target : rule.target ∈ program.states := Program.target_mem_states member
  have width : (rule.adjustments.length : Int) = program.tapes :=
    (wellFormed.rules_wellFormed rule member).width_eq
  by_cases loop : rule.source = rule.target
  · have isLoop : rule.isSelfLoop = true := Rule.isSelfLoop_eq_true.2 loop
    have flagsDiffer : activeFlag program rule.source ≠ relayFlag program rule.source :=
      activeFlag_ne_relayFlag _ _
    rw [emitted, if_pos isLoop]
    refine .loop loop ?_ ?_
    · rw [activeTape_rank, relayTape_rank, workRule, if_pos isLoop]
      exact movesToken_tokenRule wellFormed.tapes_nonneg width (activeFlag_lt source)
        (relayFlag_lt source) flagsDiffer
    · rw [activeTape_rank, relayTape_rank, returnRule]
      exact movesToken_tokenRule wellFormed.tapes_nonneg (length_zeros wellFormed)
        (relayFlag_lt source) (activeFlag_lt source) flagsDiffer.symm
  · have noLoop : ¬ rule.isSelfLoop = true := fun isLoop => loop (Rule.isSelfLoop_eq_true.1 isLoop)
    have flagsDiffer : activeFlag program rule.source ≠ activeFlag program rule.target :=
      fun same => loop ((activeFlag_inj source).1 same)
    rw [emitted, if_neg noLoop]
    refine .change loop ?_
    rw [activeTape_rank, activeTape_rank, workRule, if_neg noLoop]
    exact movesToken_tokenRule wellFormed.tapes_nonneg width (activeFlag_lt source)
      (activeFlag_lt target) flagsDiffer

/-- Every rule that is emitted moves the token from one flag to another. -/
theorem Emits.moves {source target : Int} {rules : List Rule}
    (emits : Emits program rule source target rules) (member : moving ∈ rules) :
    ∃ front origin destination, MovesToken program front origin destination moving := by
  cases emits with
  | change leaves moves =>
      rw [List.mem_singleton] at member
      subst member
      exact ⟨_, _, _, moves⟩
  | loop stays moves returns =>
      rcases List.mem_pair.1 member with rfl | rfl
      · exact ⟨_, _, _, moves⟩
      · exact ⟨_, _, _, returns⟩

/-! ## The sum of the flags -/

/-- The sum of the counters on the extra tapes. -/
def flagSum (program : Program) (machine : Machine) : Int :=
  (machine.counters.drop program.tapes.toNat).sum

theorem sum_transfer {count first second : Nat} (firstLt : first < count)
    (secondLt : second < count) (different : first ≠ second) :
    (transfer count first second).sum = 0 := by
  rw [← set_set_replicate_eq_transfer, List.sum_set', List.sum_set', List.sum_replicate]
  simp [firstLt, secondLt, different.symm]

namespace MovesToken

variable (moves : MovesToken program front origin destination moving)
include moves

/-- On the extra tapes the rule is a transfer. -/
theorem drop_eq (nonneg : 0 ≤ program.tapes) :
    moving.adjustments.drop program.tapes.toNat =
      transfer (2 * program.stateCount) (origin - program.tapes).toNat
        (destination - program.tapes).toNat := by
  have width := moves.width_eq
  have originBounds := mem_flagTapes.1 moves.origin_mem
  have destinationBounds := mem_flagTapes.1 moves.destination_mem
  simp only [Rule.width] at width
  apply List.ext_getElem?
  intro offset
  by_cases inside : offset < 2 * program.stateCount
  · have position : program.tapes.toNat + offset < moving.adjustments.length := by omega
    have entry := moves.entries ((program.tapes.toNat + offset : Nat) : Int)
      (mem_flagTapes.2 (by omega))
    have isOrigin : ((program.tapes.toNat + offset : Nat) : Int) = origin ↔
        offset = (origin - program.tapes).toNat := by omega
    have isDestination : ((program.tapes.toNat + offset : Nat) : Int) = destination ↔
        offset = (destination - program.tapes).toNat := by omega
    simp only [position?_natCast position, entry?, Option.bind_some, isOrigin,
      isDestination] at entry
    rw [List.getElem?_drop, entry]
    simp [transfer, inside]
  · rw [List.getElem?_eq_none (by simp; omega), List.getElem?_eq_none (by simp; omega)]

/-- What the rule takes from the flags it gives back to them. -/
theorem sum_drop_eq_zero (nonneg : 0 ≤ program.tapes) :
    (moving.adjustments.drop program.tapes.toNat).sum = 0 := by
  have originBounds := mem_flagTapes.1 moves.origin_mem
  have destinationBounds := mem_flagTapes.1 moves.destination_mem
  have different := moves.origin_ne
  rw [moves.drop_eq nonneg]
  exact sum_transfer (by omega) (by omega) (by omega)

theorem flagSum_adjust {state target : Int} {counters : List Int} (nonneg : 0 ≤ program.tapes)
    (width : counters.length = moving.width) :
    flagSum program ⟨target, moving.adjust counters⟩ = flagSum program ⟨state, counters⟩ := by
  have width : (counters.drop program.tapes.toNat).length =
      (moving.adjustments.drop program.tapes.toNat).length := by
    rw [List.length_drop, List.length_drop, width, Rule.width]
  simp only [flagSum, Rule.adjust, List.drop_zipWith]
  rw [← List.sum_add_sum_eq_sum_zipWith_of_length_eq _ _ width, moves.sum_drop_eq_zero nonneg,
    Int.add_zero]

end MovesToken

section Run

variable {index count : Nat} {positions : List Nat} (wellFormed : program.WellFormed)
  (fits : machine.Fits (singleForm program).tapes)
include wellFormed fits

/-- A firing leaves the sum of the flags as it is. -/
theorem flagSum_of_fired (fired : (singleForm program).scan machine = .fired index rule after) :
    flagSum program after = flagSum program machine := by
  have singleWellFormed := wellFormed_singleForm wellFormed
  obtain ⟨before, rest, selects, -, -, rfl⟩ := Program.scan_fired singleWellFormed fits fired
  obtain ⟨source, member, isEmitted⟩ := List.mem_flatMap.1 selects.mem
  obtain ⟨front, origin, destination, moves⟩ :=
    (emits_emitted wellFormed member).moves isEmitted
  exact moves.flagSum_adjust wellFormed.tapes_nonneg
    (Program.width_eq singleWellFormed fits selects.mem)

/-- So does a run. -/
theorem flagSum_of_firings
    (reached : (singleForm program).firings machine count = some (positions, final)) :
    flagSum program final = flagSum program machine := by
  have singleWellFormed := wellFormed_singleForm wellFormed
  refine Program.firings_preserves
    (fun _ _ current => flagSum program current = flagSum program machine) rfl ?_ reached
  intro count positions current index rule after before fired same
  exact (flagSum_of_fired wellFormed
    (Program.fits_of_firings singleWellFormed fits before) fired).trans same

end Run

/-- Encoding a rule of the program fails, if at all, because there cannot be that many tapes. -/
theorem tapes_of_encodeSingleRule {room : Int} {error : EncodeError}
    (wellFormed : program.WellFormed) (member : rule ∈ program.rules)
    (failed : encodeSingleRule room (numbering program) program.tapes (tapeCount program) rule =
      .error error) : ∃ cause, error = .tapes cause := by
  simp only [encodeSingleRule, number_numbering (Program.source_mem_states member), bind,
    Except.bind] at failed
  split at failed
  next cause tooMany =>
    cases failed
    exact ⟨cause, rfl⟩
  next =>
    rw [encodeRule_eq wellFormed member] at failed
    cases failed

/-- The flags of different states are different tapes and together with the source tapes all tapes
that there are; every rule can be encoded, and every rule that is emitted for it moves the token
from one flag to another. So along every run on the single-state form, and at every moment of a
session, the sum of the flags is that of the machine that was loaded, which need not be an encoded
one.

The numbers of the states, on which all this rests, are given in the order of the states and without
gaps, and they depend on nothing but which states are mentioned. -/
theorem flags_apart_and_conserved (draft : DraftProgram) (program : Program)
    (valid : draft.accept = .ok program) :
    Enumerates (numbering program) program program.stateCount ∧
    (∀ other : Program, (∀ state, program.Mentions state ↔ other.Mentions state) →
      numbering other = numbering program) ∧
    (flagTapes program.tapes program.stateCount).Nodup ∧
    (∀ tape, tape ∈ flagTapes program.tapes program.stateCount ↔
      program.tapes ≤ tape ∧ tape < program.tapes + 2 * program.stateCount) ∧
    (∀ rule ∈ program.rules, ∃ source target rules,
      (numbering program).lookup rule.source = some source ∧
      (numbering program).lookup rule.target = some target ∧
      encodeRule (numbering program) program.tapes (tapeCount program) rule = .ok rules ∧
      (∀ room error,
        encodeSingleRule room (numbering program) program.tapes (tapeCount program) rule =
          .error error → ∃ cause, error = .tapes cause) ∧
      Emits program rule source target rules) ∧
    ∃ single, eliminate draft = .ok single ∧
      single.tapes = program.tapes + 2 * program.stateCount ∧
      (∀ moving ∈ single.rules, ∃ rule ∈ program.rules, ∃ source target rules,
        Emits program rule source target rules ∧ moving ∈ rules) ∧
      ∀ machineDraft machine, DraftMachine.accept single.tapes machineDraft = .ok machine →
        (∀ count positions final, single.firings machine count = some (positions, final) →
          flagSum program final = flagSum program machine) ∧
        ∀ (fuel : Int) (recording : Bool), 0 ≤ fuel →
          ∃ session loaded, Session.start single.toDraft fuel recording = .ok session ∧
            session.load machineDraft = .ok loaded ∧
            ∀ history moment, loaded.NoLoad history → loaded.Passes history moment →
              ∃ current, moment.machine = some current ∧
                flagSum program current = flagSum program machine := by
  obtain ⟨rfl, wellFormed⟩ := DraftProgram.accept_eq_ok.1 valid
  have singleWellFormed := wellFormed_singleForm wellFormed
  refine ⟨program.length_states ▸ enumerates_numbering program,
    fun other same => (numbering_eq_of_mentions same).symm, nodup_flagTapes _ _,
    fun _ => mem_flagTapes, ?_, singleForm program, eliminate_eq wellFormed, ?_, ?_, ?_⟩
  · intro rule member
    exact ⟨_, _, _, lookup_of_mentioned (Program.source_mem_states member),
      lookup_of_mentioned (Program.target_mem_states member), encodeRule_eq wellFormed member,
      fun _ _ failed => tapes_of_encodeSingleRule wellFormed member failed,
      emits_emitted wellFormed member⟩
  · rw [singleForm, tapeCount, length_numbering, program.length_states]
  · intro moving member
    obtain ⟨rule, inside, isEmitted⟩ := List.mem_flatMap.1 member
    exact ⟨rule, inside, _, _, _, emits_emitted wellFormed inside, isEmitted⟩
  · intro machineDraft machine machineValid
    obtain ⟨rfl, fits⟩ := DraftMachine.accept_eq_ok.1 machineValid
    refine ⟨fun count positions final reached => flagSum_of_firings wellFormed fits reached, ?_⟩
    intro fuel recording nonneg
    have loaded := @Session.load_toDraft
      { program := singleForm program, fuel, recording } machine fits
    refine ⟨_, _, Session.start_toDraft singleWellFormed nonneg recording, loaded, ?_⟩
    intro history moment noLoad passes
    obtain ⟨same, positions, current, follows⟩ :=
      Session.follows_of_passes singleWellFormed loaded noLoad passes
    have reached := follows.reached
    rw [same] at reached
    exact ⟨current, follows.current, flagSum_of_firings wellFormed fits reached⟩

/-- Seven on the flags of a machine that encodes nothing, and seven after it has run. -/
theorem flags_apart_and_conserved_unencoded :
    let program : Program := ⟨1, [⟨8, 3, [-1]⟩, ⟨3, 3, [2]⟩]⟩
    (numbering program).lookup 8 = some 1 ∧
    (∃ rules, encodeRule (numbering program) 1 5 ⟨3, 3, [2]⟩ = .ok rules ∧
      Emits program ⟨3, 3, [2]⟩ 0 0 rules) ∧
    ∃ single session loaded current, eliminate program.toDraft = .ok single ∧
      Session.start single.toDraft 9 true = .ok session ∧
      session.load (Machine.toDraft ⟨0, [4, 1, 1, 0, 5]⟩) = .ok loaded ∧
      (loaded.after [.run, .step]).machine = some current ∧ flagSum program current = 7 := by
  intro program
  have valid : DraftProgram.accept program.toDraft = .ok program := rfl
  obtain ⟨-, -, -, -, encodes, single, eliminated, -, -, conserved⟩ :=
    flags_apart_and_conserved _ _ valid
  have computed : eliminate program.toDraft =
      .ok ⟨5, [onlyRule [-1, 1, 0, -1, 0], onlyRule [2, -1, 1, 0, 0],
        onlyRule [0, 1, -1, 0, 0]]⟩ := by
    decide +kernel
  cases eliminated.symm.trans computed
  have machineValid : DraftMachine.accept 5 (Machine.toDraft ⟨0, [4, 1, 1, 0, 5]⟩) =
      .ok ⟨0, [4, 1, 1, 0, 5]⟩ := rfl
  obtain ⟨-, throughout⟩ := conserved _ _ machineValid
  obtain ⟨session, loaded, opened, given, moments⟩ := throughout 9 true (by decide)
  obtain ⟨current, stands, same⟩ := moments [.run, .step] _
    (fun draft member => by simp at member) (Session.passes_after loaded _)
  refine ⟨by decide, ?_, _, session, loaded, current, computed, opened, given, stands, same⟩
  obtain ⟨source, target, rules, sourceFound, targetFound, encoded, -, emits⟩ :=
    encodes ⟨3, 3, [2]⟩ (by decide)
  have number : (numbering program).lookup 3 = some 0 := by decide
  cases sourceFound.symm.trans number
  cases targetFound.symm.trans number
  exact ⟨rules, encoded, emits⟩

end CounterMachine.Elimination
