import CounterMachine.Proofs.Decoding
import CounterMachine.Proofs.Renaming
import CounterMachine.Proofs.Result
import Mathlib.Data.List.Sort

/-!
# The order of states

State elimination looks at the states of a program only to put them in order. A renaming that keeps
their order keeps the place of each of them, and with the places the tapes of all flags. So it
changes neither the single-state form nor the machine that this starts from, and a machine of the
single-state form decodes to the new name of the state that it decoded to before. In particular a
program may be given the numbers of its states for names.
-/

namespace CounterMachine

variable {name : Renaming} {program : Program} {machine current : Machine} {rule : Rule}
  {state : Int}

/-- The renaming keeps these states in order. -/
def Renaming.Increasing (name : Renaming) (states : Set Int) : Prop :=
  ∀ left ∈ states, ∀ right ∈ states, left < right → name left < name right

namespace Renaming.Increasing

variable {states : Set Int}

theorem injOn (ordered : name.Increasing states) : Set.InjOn name states := by
  intro left leftMember right rightMember same
  rcases Int.lt_trichotomy left right with less | equal | greater
  · exact absurd same (Int.ne_of_lt (ordered left leftMember right rightMember less))
  · exact equal
  · exact absurd same.symm (Int.ne_of_lt (ordered right rightMember left leftMember greater))

theorem mono {fewer : Set Int} (ordered : name.Increasing states) (within : fewer ⊆ states) :
    name.Increasing fewer :=
  fun left leftMember right rightMember =>
    ordered left (within leftMember) right (within rightMember)

end Renaming.Increasing

namespace Program

theorem mem_states_rename :
    state ∈ (program.rename name).states ↔ ∃ old ∈ program.states, name old = state := by
  simp only [mem_states, Program.rename, List.mem_map]
  constructor
  · rintro ⟨_, ⟨rule, member, rfl⟩, rfl | rfl⟩
    · exact ⟨rule.source, ⟨rule, member, .inl rfl⟩, rfl⟩
    · exact ⟨rule.target, ⟨rule, member, .inr rfl⟩, rfl⟩
  · rintro ⟨_, ⟨rule, member, rfl | rfl⟩, rfl⟩
    · exact ⟨_, ⟨rule, member, rfl⟩, .inl rfl⟩
    · exact ⟨_, ⟨rule, member, rfl⟩, .inr rfl⟩

/-- The states of a program stay in order if the renaming keeps it. -/
theorem states_rename (ordered : name.Increasing {state | state ∈ program.states}) :
    (program.rename name).states = program.states.map name := by
  apply List.Pairwise.eq_of_mem_iff (program.rename name).pairwise_states
  · rw [List.pairwise_map]
    exact program.pairwise_states.imp_of_mem fun left right less => ordered _ left _ right less
  · intro state
    rw [mem_states_rename, List.mem_map]

theorem WellFormed.state_nonneg (wellFormed : program.WellFormed)
    (mentioned : state ∈ program.states) : 0 ≤ state := by
  obtain ⟨rule, member, rfl | rfl⟩ := mem_states.1 mentioned
  · exact (wellFormed.rules_wellFormed rule member).source_nonneg
  · exact (wellFormed.rules_wellFormed rule member).target_nonneg

end Program

namespace Elimination

section Ordered

variable (ordered : name.Increasing {state | state ∈ program.states})
include ordered

theorem numbering_rename :
    numbering (program.rename name) = (numbering program).map (Prod.map name id) := by
  rw [numbering, numbering, Program.states_rename ordered, List.zipIdx_map, List.map_map,
    List.map_map]
  rfl

theorem length_states_rename :
    (program.rename name).states.length = program.states.length := by
  rw [Program.states_rename ordered, List.length_map]

theorem rank_rename (mentioned : state ∈ program.states) :
    rank (program.rename name) (name state) = rank program state := by
  have inside : rank program state < (program.states.map name).length := by
    rw [List.length_map]
    exact rank_lt mentioned
  have found : (program.states.map name)[rank program state] = name state := by
    rw [List.getElem_map]
    exact congrArg name (List.getElem_idxOf (rank_lt mentioned))
  have distinct := (program.rename name).nodup_states
  rw [Program.states_rename ordered] at distinct
  rw [rank, Program.states_rename ordered, ← found]
  exact distinct.idxOf_getElem (rank program state) inside

theorem activeFlag_rename (mentioned : state ∈ program.states) :
    activeFlag (program.rename name) (name state) = activeFlag program state := by
  rw [activeFlag, activeFlag, rank_rename ordered mentioned]

theorem relayFlag_rename (mentioned : state ∈ program.states) :
    relayFlag (program.rename name) (name state) = relayFlag program state := by
  rw [relayFlag, relayFlag, rank_rename ordered mentioned]

theorem tapeCount_rename : tapeCount (program.rename name) = tapeCount program := by
  rw [tapeCount, tapeCount, length_numbering, length_numbering, length_states_rename ordered]
  rfl

theorem tokenRule_rename (adjustments : List Int) (origin destination : Nat) :
    tokenRule (program.rename name) adjustments origin destination =
      tokenRule program adjustments origin destination := by
  rw [tokenRule, tokenRule, length_states_rename ordered]

theorem isSelfLoop_rename (member : rule ∈ program.rules) :
    (rule.rename name).isSelfLoop = rule.isSelfLoop := by
  rw [Bool.eq_iff_iff, Rule.isSelfLoop_eq_true, Rule.isSelfLoop_eq_true]
  exact ordered.injOn.eq_iff (Program.source_mem_states member) (Program.target_mem_states member)

theorem workRule_rename (member : rule ∈ program.rules) :
    workRule (program.rename name) (rule.rename name) = workRule program rule := by
  have source := Program.source_mem_states member
  have target := Program.target_mem_states member
  rw [workRule, tokenRule_rename ordered, isSelfLoop_rename ordered member, workRule]
  simp only [Rule.rename, activeFlag_rename ordered source, activeFlag_rename ordered target,
    relayFlag_rename ordered source]

theorem returnRule_rename (mentioned : state ∈ program.states) :
    returnRule (program.rename name) (name state) = returnRule program state := by
  rw [returnRule, tokenRule_rename ordered, activeFlag_rename ordered mentioned,
    relayFlag_rename ordered mentioned]
  rfl

theorem emitted_rename (member : rule ∈ program.rules) :
    emitted (program.rename name) (rule.rename name) = emitted program rule := by
  have returned := returnRule_rename ordered (Program.source_mem_states member)
  rw [emitted, workRule_rename ordered member, isSelfLoop_rename ordered member, emitted]
  simp only [Rule.rename, returned]

theorem singleForm_rename : singleForm (program.rename name) = singleForm program := by
  have rules : (program.rename name).rules.flatMap (emitted (program.rename name)) =
      program.rules.flatMap (emitted program) := by
    rw [Program.rename, List.flatMap_map]
    exact List.flatMap_congr fun rule member => emitted_rename ordered member
  rw [singleForm, tapeCount_rename ordered, rules, singleForm]

/-- The machine gets its token at the same place. A state that no rule mentions must not get the
name of one that is mentioned, or the machine would get a token that it did not have. -/
theorem encoded_rename
    (apart : name machine.state ∈ (program.rename name).states → machine.state ∈ program.states) :
    encoded (program.rename name) (machine.rename name) = encoded program machine := by
  have state : (machine.rename name).state = name machine.state := rfl
  rw [encoded, encoded, tokenMachine, tokenMachine, length_states_rename ordered, state]
  by_cases mentioned : machine.state ∈ program.states
  · have renamed : name machine.state ∈ (program.rename name).states :=
      Program.mem_states_rename.2 ⟨machine.state, mentioned, rfl⟩
    rw [if_pos renamed, if_pos mentioned, activeFlag_rename ordered mentioned]
    rfl
  · rw [if_neg fun renamed => mentioned (apart renamed), if_neg mentioned]
    rfl

end Ordered

/-- The decoding error with the states that it lists renamed. -/
def DecodeError.rename (name : Renaming) : DecodeError → DecodeError
  | .width expected actual => .width expected actual
  | .several states => .several (states.map name)
  | .noTape tape => .noTape tape

theorem noTape_of_isSet {tape : Int} {error : DecodeError}
    (failed : isSet current tape = .error error) : error = .noTape tape := by
  rw [isSet] at failed
  split at failed
  next => cases failed
  next => exact (Except.error.inj failed).symm

theorem noTape_of_isEmulated {sourceTapes number : Int} {error : DecodeError}
    (failed : isEmulated sourceTapes current number = .error error) :
    ∃ tape, error = .noTape tape := by
  rcases bind_eq_error_iff.1 failed with active | ⟨set, -, relay⟩
  · exact ⟨_, noTape_of_isSet active⟩
  · cases set with
    | false => exact ⟨_, noTape_of_isSet relay⟩
    | true => cases relay

/-- Looking for set flags fails for no other reason than that a flag is missing. -/
theorem noTape_of_emulatedStates {sourceTapes : Int} {states : Numbering}
    {error : DecodeError} (failed : emulatedStates sourceTapes current states = .error error) :
    ∃ tape, error = .noTape tape := by
  induction states with
  | nil => cases failed
  | cons entry rest ih =>
      rcases bind_eq_error_iff.1 failed with here | ⟨set, -, failed⟩
      · exact noTape_of_isEmulated here
      · rcases bind_eq_error_iff.1 failed with later | ⟨found, -, returned⟩
        · exact ih later
        · cases returned

theorem emulatedStates_rename (sourceTapes : Int) (states : Numbering) :
    emulatedStates sourceTapes current (states.map (Prod.map name id)) =
      (emulatedStates sourceTapes current states).map (List.map name) := by
  induction states with
  | nil => rfl
  | cons entry rest ih =>
      obtain ⟨state, number⟩ := entry
      rw [List.map_cons, Prod.map, emulatedStates, emulatedStates, ih, id]
      cases isEmulated sourceTapes current number with
      | error error => rfl
      | ok here =>
          cases emulatedStates sourceTapes current rest with
          | error error => rfl
          | ok later =>
              cases here with
              | false => rfl
              | true => rfl

/-- A machine decodes to the new name of the state that it decoded to, and still does not decode if
it did not. -/
theorem emulatedState_rename (ordered : name.Increasing {state | state ∈ program.states}) :
    emulatedState current (program.rename name) =
      ((emulatedState current program).mapError (.rename name)).map (Option.map name) := by
  have tapes : (program.rename name).tapes = program.tapes := rfl
  simp only [emulatedState, tapes, tapeCount_rename ordered, numbering_rename ordered,
    emulatedStates_rename]
  by_cases width : (current.width : Int) = tapeCount program
  · simp only [width, ne_eq, not_true_eq_false, ↓reduceIte]
    cases found : emulatedStates program.tapes current (numbering program) with
    | error error =>
        obtain ⟨tape, rfl⟩ := noTape_of_emulatedStates found
        rfl
    | ok states =>
        rcases states with - | ⟨state, - | ⟨other, rest⟩⟩
        · rfl
        · rfl
        · rfl
  · simp only [width, ne_eq, not_false_eq_true, ↓reduceIte]
    rfl

/-- The number of every state for its name. All states that no rule mentions get the next one. -/
def ranks (program : Program) : Renaming :=
  fun state => rank program state

/-- Numbers are in the order of the states. -/
theorem increasing_ranks (program : Program) :
    (ranks program).Increasing {state | state ∈ program.states} := by
  intro left leftMentioned right rightMentioned less
  have leftLt := rank_lt leftMentioned
  have rightLt := rank_lt rightMentioned
  have leftFound : program.states[rank program left] = left := List.getElem_idxOf leftLt
  have rightFound : program.states[rank program right] = right := List.getElem_idxOf rightLt
  rcases Nat.lt_trichotomy (rank program left) (rank program right) with before | same | after
  · exact Int.ofNat_lt.2 before
  · exact absurd (rank_inj leftMentioned same) (Int.ne_of_lt less)
  · have greater := List.pairwise_iff_getElem.1 program.pairwise_states _ _ rightLt leftLt after
    rw [leftFound, rightFound] at greater
    omega

theorem states_rename_ranks (program : Program) :
    (program.rename (ranks program)).states =
      (List.range program.states.length).map fun number : Nat => (number : Int) := by
  rw [Program.states_rename (increasing_ranks program)]
  apply List.ext_getElem
  · simp
  · intro number left right
    simp [ranks, rank, program.nodup_states.idxOf_getElem]

/-- No number is left for the states that no rule mentions. -/
theorem mem_states_of_ranks
    (renamed : ranks program state ∈ (program.rename (ranks program)).states) :
    state ∈ program.states := by
  rw [states_rename_ranks, List.mem_map] at renamed
  obtain ⟨number, inside, same⟩ := renamed
  rw [List.mem_range] at inside
  have below : rank program state < program.states.length := by
    rw [ranks] at same
    omega
  exact List.idxOf_lt_length_iff.1 below

/-! ## What elimination sees -/

/-- Eliminating the states of a program and of the renamed program comes to the same: the forms are
equal, and so are the machines that they start from, and every machine decodes to the new name of
the state that it decoded to. -/
structure SameElimination (name : Renaming) (draft : DraftProgram) (program : Program) : Prop where
  program_eq : ∃ single, eliminate draft = .ok single ∧
    eliminate (program.rename name).toDraft = .ok single
  machine_eq : ∀ machineDraft machine,
    DraftMachine.accept program.tapes machineDraft = .ok machine →
      ∃ first, eliminateMachine machineDraft draft = .ok first ∧
        eliminateMachine (machine.rename name).toDraft (program.rename name).toDraft = .ok first
  decoded_eq : ∀ current, emulatedState current (program.rename name) =
    ((emulatedState current program).mapError (.rename name)).map (Option.map name)

theorem sameElimination_rename (wellFormed : program.WellFormed)
    (keeps : ∀ state, 0 ≤ state → 0 ≤ name state)
    (ordered : name.Increasing {state | state ∈ program.states})
    (apart : ∀ state, 0 ≤ state → name state ∈ (program.rename name).states →
      state ∈ program.states) :
    SameElimination name program.toDraft program where
  program_eq := by
    refine ⟨singleForm program, eliminate_eq wellFormed, ?_⟩
    rw [eliminate_eq (wellFormed.rename keeps), singleForm_rename ordered]
  machine_eq := by
    intro machineDraft machine valid
    obtain ⟨rfl, fits⟩ := DraftMachine.accept_eq_ok.1 valid
    refine ⟨encoded program machine, eliminateMachine_eq wellFormed fits, ?_⟩
    rw [eliminateMachine_eq (wellFormed.rename keeps) (fits.rename keeps),
      encoded_rename ordered (apart machine.state fits.state_nonneg)]
  decoded_eq := fun _ => emulatedState_rename ordered

/-- Elimination sees no more of the states than their order. A strictly increasing renaming changes
neither the single-state form nor the machine that it starts from, and decoding gives the new names.
So does the renaming of every state to its number, after which the states are `0, 1, …`. -/
theorem eliminate_sees_order_of_states (draft : DraftProgram) (program : Program)
    (valid : draft.accept = .ok program) :
    (∀ name : Renaming, (∀ state, 0 ≤ state → 0 ≤ name state) →
      name.Increasing {state | 0 ≤ state} → SameElimination name draft program) ∧
    SameElimination (ranks program) draft program ∧
    (program.rename (ranks program)).states =
      (List.range program.states.length).map fun number : Nat => (number : Int) := by
  obtain ⟨rfl, wellFormed⟩ := DraftProgram.accept_eq_ok.1 valid
  refine ⟨?_, ?_, states_rename_ranks program⟩
  · intro name keeps ordered
    have within : {state | state ∈ program.states} ⊆ {state | 0 ≤ state} :=
      fun _ mentioned => wellFormed.state_nonneg mentioned
    refine sameElimination_rename wellFormed keeps (ordered.mono within) ?_
    intro state nonneg renamed
    obtain ⟨old, mentioned, same⟩ := Program.mem_states_rename.1 renamed
    exact ordered.injOn (within mentioned) nonneg same ▸ mentioned
  · refine sameElimination_rename wellFormed ?_ (increasing_ranks program) ?_
    · exact fun state _ => Int.natCast_nonneg (rank program state)
    · exact fun state _ renamed => mem_states_of_ranks renamed

/-- The states `3` and `8` become `7` and `17`, or `0` and `1`. -/
theorem eliminate_sees_order_of_two_states :
    eliminate (Program.toDraft ⟨1, [⟨8, 3, [-1]⟩, ⟨3, 3, [1]⟩]⟩) =
      .ok ⟨5, [onlyRule [-1, 1, 0, -1, 0], onlyRule [1, -1, 1, 0, 0], onlyRule [0, 1, -1, 0, 0]]⟩ ∧
    eliminate (Program.toDraft ⟨1, [⟨17, 7, [-1]⟩, ⟨7, 7, [1]⟩]⟩) =
      .ok ⟨5, [onlyRule [-1, 1, 0, -1, 0], onlyRule [1, -1, 1, 0, 0], onlyRule [0, 1, -1, 0, 0]]⟩ ∧
    eliminate (Program.toDraft ⟨1, [⟨1, 0, [-1]⟩, ⟨0, 0, [1]⟩]⟩) =
      .ok ⟨5, [onlyRule [-1, 1, 0, -1, 0], onlyRule [1, -1, 1, 0, 0], onlyRule [0, 1, -1, 0, 0]]⟩ ∧
    eliminateMachine (Machine.toDraft ⟨17, [4]⟩)
      (Program.toDraft ⟨1, [⟨17, 7, [-1]⟩, ⟨7, 7, [1]⟩]⟩) = .ok ⟨onlyState, [4, 0, 0, 1, 0]⟩ ∧
    emulatedState ⟨onlyState, [4, 0, 1, 0, 0]⟩ ⟨1, [⟨17, 7, [-1]⟩, ⟨7, 7, [1]⟩]⟩ =
      .ok (some 7) := by
  have valid : DraftProgram.accept (Program.toDraft ⟨1, [⟨8, 3, [-1]⟩, ⟨3, 3, [1]⟩]⟩) =
      .ok ⟨1, [⟨8, 3, [-1]⟩, ⟨3, 3, [1]⟩]⟩ := rfl
  have machineValid : DraftMachine.accept 1 (Machine.toDraft ⟨8, [4]⟩) = .ok ⟨8, [4]⟩ := rfl
  obtain ⟨increasing, numbered, -⟩ := eliminate_sees_order_of_states _ _ valid
  have increased := increasing (fun state => 2 * state + 1) (by omega) (by
    intro left _ right _ less
    simp only
    omega)
  have eliminated : eliminate (Program.toDraft ⟨1, [⟨8, 3, [-1]⟩, ⟨3, 3, [1]⟩]⟩) =
      .ok ⟨5, [onlyRule [-1, 1, 0, -1, 0], onlyRule [1, -1, 1, 0, 0],
        onlyRule [0, 1, -1, 0, 0]]⟩ := by
    decide +kernel
  have started : eliminateMachine (Machine.toDraft ⟨8, [4]⟩)
      (Program.toDraft ⟨1, [⟨8, 3, [-1]⟩, ⟨3, 3, [1]⟩]⟩) = .ok ⟨onlyState, [4, 0, 0, 1, 0]⟩ := by
    decide +kernel
  have decoded : emulatedState ⟨onlyState, [4, 0, 1, 0, 0]⟩
      ⟨1, [⟨8, 3, [-1]⟩, ⟨3, 3, [1]⟩]⟩ = .ok (some 3) := by
    decide +kernel
  have renumbered : Program.rename (ranks ⟨1, [⟨8, 3, [-1]⟩, ⟨3, 3, [1]⟩]⟩)
      ⟨1, [⟨8, 3, [-1]⟩, ⟨3, 3, [1]⟩]⟩ = ⟨1, [⟨1, 0, [-1]⟩, ⟨0, 0, [1]⟩]⟩ := by
    decide +kernel
  refine ⟨eliminated, ?_, ?_, ?_, ?_⟩
  · obtain ⟨single, source, renamed⟩ := increased.program_eq
    rwa [← source.symm.trans eliminated]
  · obtain ⟨single, source, renamed⟩ := numbered.program_eq
    rw [renumbered] at renamed
    rwa [← source.symm.trans eliminated]
  · obtain ⟨first, source, renamed⟩ := increased.machine_eq _ _ machineValid
    rwa [← source.symm.trans started]
  · have renamed := increased.decoded_eq ⟨onlyState, [4, 0, 1, 0, 0]⟩
    rw [decoded] at renamed
    exact renamed

end Elimination

end CounterMachine
