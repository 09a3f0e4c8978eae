import CounterMachine.Proofs.Ranks
import Mathlib.Data.Finset.Card

/-!
# Numbers and tapes of states

State elimination numbers the states that a program mentions and gives two tapes to each number.
The numbers are `0, 1, …` without gaps, in the order of the states, and they depend on nothing but
which states are mentioned. The tapes of different states are different, and together with the
tapes of the source program they are all tapes that there are.
-/

namespace CounterMachine

variable {program other : Program} {state number tape : Int}

/-- Some rule starts from the state or leads to it. -/
def Program.Mentions (program : Program) (state : Int) : Prop :=
  ∃ rule ∈ program.rules, state = rule.source ∨ state = rule.target

/-- The number of different states that the rules mention. -/
def Program.stateCount (program : Program) : Nat :=
  (program.rules.flatMap fun rule => [rule.source, rule.target]).toFinset.card

theorem Program.length_states (program : Program) : program.states.length = program.stateCount := by
  rw [stateCount, ← List.toFinset_card_of_nodup program.nodup_states]
  congr 1
  ext state
  simp [mem_states]

/-- Programs that mention the same states have the same list of states. -/
theorem Program.states_eq_of_mentions
    (same : ∀ state, program.Mentions state ↔ other.Mentions state) :
    program.states = other.states := by
  apply List.Pairwise.eq_of_mem_iff program.pairwise_states other.pairwise_states
  intro state
  rw [mem_states, mem_states]
  exact same state

namespace Elimination

theorem lookup_eq_some :
    (numbering program).lookup state = some number ↔
      program.Mentions state ∧ number = rank program state := by
  rw [lookup_numbering, Program.Mentions, ← Program.mem_states, Option.ite_none_right_eq_some,
    Option.some.injEq, @eq_comm _ number]

theorem lookup_of_mentioned (mentioned : state ∈ program.states) :
    (numbering program).lookup state = some (rank program state : Int) :=
  lookup_eq_some.2 ⟨Program.mem_states.1 mentioned, rfl⟩

theorem rank_lt_rank {left right : Int} (leftMentioned : left ∈ program.states)
    (rightMentioned : right ∈ program.states) :
    rank program left < rank program right ↔ left < right := by
  constructor
  · intro less
    rcases Int.lt_trichotomy left right with before | rfl | after
    · exact before
    · omega
    · have greater := increasing_ranks program right rightMentioned left leftMentioned after
      simp only [ranks] at greater
      omega
  · intro before
    exact Int.ofNat_lt.1 (increasing_ranks program left leftMentioned right rightMentioned before)

theorem exists_rank_eq {place : Nat} (inside : place < program.states.length) :
    ∃ state ∈ program.states, rank program state = place :=
  ⟨program.states[place], List.getElem_mem inside,
    program.nodup_states.idxOf_getElem place inside⟩

/-- The states that a program mentions, and no others, are given the numbers below a count, each
number once and in the order of the states. -/
structure Enumerates (states : Numbering) (program : Program) (count : Nat) : Prop where
  numbered : ∀ state, (∃ number, states.lookup state = some number) ↔ program.Mentions state
  onto : ∀ number : Int, (∃ state, states.lookup state = some number) ↔
    0 ≤ number ∧ number < count
  increasing : ∀ left right first second, states.lookup left = some first →
    states.lookup right = some second → (first < second ↔ left < right)
  distinct : (states.map Prod.fst).Nodup

theorem enumerates_numbering (program : Program) :
    Enumerates (numbering program) program program.states.length where
  numbered := by
    intro state
    simp only [lookup_eq_some, exists_and_left, exists_eq, and_true]
  onto := by
    intro number
    simp only [lookup_eq_some, Program.Mentions, ← Program.mem_states]
    constructor
    · rintro ⟨state, mentioned, rfl⟩
      have := rank_lt mentioned
      omega
    · rintro ⟨nonneg, below⟩
      obtain ⟨state, mentioned, place⟩ :
          ∃ state ∈ program.states, rank program state = number.toNat :=
        exists_rank_eq (by omega)
      exact ⟨state, mentioned, by omega⟩
  increasing := by
    intro left right first second leftFound rightFound
    obtain ⟨leftMentioned, rfl⟩ := lookup_eq_some.1 leftFound
    obtain ⟨rightMentioned, rfl⟩ := lookup_eq_some.1 rightFound
    rw [Int.ofNat_lt]
    exact rank_lt_rank (Program.mem_states.2 leftMentioned) (Program.mem_states.2 rightMentioned)
  distinct := by
    have keys : (numbering program).map Prod.fst = program.states := by
      simp [numbering, Function.comp_def]
    rw [keys]
    exact program.nodup_states

/-- The numbers depend only on which states are mentioned. -/
theorem numbering_eq_of_mentions
    (same : ∀ state, program.Mentions state ↔ other.Mentions state) :
    numbering program = numbering other := by
  rw [numbering, numbering, Program.states_eq_of_mentions same]

/-- The two tapes of each number below a count. -/
def flagTapes (sourceTapes : Int) (count : Nat) : List Int :=
  (List.range count).flatMap fun number : Nat =>
    [activeTape sourceTapes number, relayTape sourceTapes number]

theorem flagTapes_eq (sourceTapes : Int) (count : Nat) :
    flagTapes sourceTapes count =
      (List.range (2 * count)).map fun offset : Nat => sourceTapes + offset := by
  induction count with
  | zero => rfl
  | succ count ih =>
      rw [flagTapes, List.range_succ, List.flatMap_append, ← flagTapes, ih, Nat.mul_succ,
        List.range_succ, List.range_succ, List.map_append, List.map_append, List.append_assoc]
      simp [activeTape, relayTape, Int.add_assoc]

/-- The tapes fill the places after the source tapes. -/
theorem mem_flagTapes {sourceTapes : Int} {count : Nat} :
    tape ∈ flagTapes sourceTapes count ↔ sourceTapes ≤ tape ∧ tape < sourceTapes + 2 * count := by
  simp only [flagTapes_eq, List.mem_map, List.mem_range]
  constructor
  · rintro ⟨offset, below, rfl⟩
    omega
  · rintro ⟨atLeast, below⟩
    exact ⟨(tape - sourceTapes).toNat, by omega, by omega⟩

/-- No tape is given twice. -/
theorem nodup_flagTapes (sourceTapes : Int) (count : Nat) :
    (flagTapes sourceTapes count).Nodup := by
  rw [flagTapes_eq]
  refine List.Nodup.map ?_ List.nodup_range
  intro left right same
  simp only at same
  omega

end Elimination

end CounterMachine
