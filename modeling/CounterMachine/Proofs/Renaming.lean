import CounterMachine.Proofs.Outcome
import Mathlib.Data.List.Find
import Mathlib.Data.Set.Function

/-!
# Names and order of states

A state is only a name, and a rule competes only with the rules of its own state. So a run does not
change if states are renamed without merging any two of them, nor if the rules of different states
are mixed in another way. Both are cases of one correspondence: another program has, for every state
and under its new name, the same rules in the same order. Then both step alike on corresponding
machines, at different positions perhaps, and their runs end alike under every budget.
-/

namespace CounterMachine

/-- A new name for every state. -/
abbrev Renaming := Int → Int

variable {name : Renaming} {program other : Program} {machine : Machine} {rule : Rule} {state : Int}

def Rule.rename (name : Renaming) (rule : Rule) : Rule :=
  { rule with source := name rule.source, target := name rule.target }

def Program.rename (name : Renaming) (program : Program) : Program :=
  { program with rules := program.rules.map (Rule.rename name) }

def Machine.rename (name : Renaming) (machine : Machine) : Machine :=
  { machine with state := name machine.state }

@[simp] theorem Rule.rename_id (rule : Rule) : rule.rename id = rule := rfl

@[simp] theorem Machine.rename_id (machine : Machine) : machine.rename id = machine := rfl

theorem Rule.WellFormed.rename {tapes : Int} (wellFormed : rule.WellFormed tapes)
    (keeps : ∀ state, 0 ≤ state → 0 ≤ name state) : (rule.rename name).WellFormed tapes where
  width_eq := wellFormed.width_eq
  source_nonneg := keeps _ wellFormed.source_nonneg
  target_nonneg := keeps _ wellFormed.target_nonneg
  adjustments_bounded := wellFormed.adjustments_bounded

theorem Program.WellFormed.rename (wellFormed : program.WellFormed)
    (keeps : ∀ state, 0 ≤ state → 0 ≤ name state) : (program.rename name).WellFormed where
  tapes_nonneg := wellFormed.tapes_nonneg
  rules_wellFormed := by
    intro renamed member
    obtain ⟨rule, inside, rfl⟩ := List.mem_map.1 member
    exact (wellFormed.rules_wellFormed rule inside).rename keeps

theorem Machine.Fits.rename {tapes : Int} (fits : machine.Fits tapes)
    (keeps : ∀ state, 0 ≤ state → 0 ≤ name state) : (machine.rename name).Fits tapes where
  width_eq := fits.width_eq
  state_nonneg := keeps _ fits.state_nonneg
  counters_bounded := fits.counters_bounded

/-- The rules of a state, in order of priority. -/
def Program.rulesOf (program : Program) (state : Int) : List Rule :=
  program.rules.filter fun rule => rule.source == state

/-- The other program has the same rules for every state, in the same order and under the names of
the states. Nothing is said about the order of rules of different states. -/
structure Program.Corresponds (name : Renaming) (program other : Program) : Prop where
  tapes_eq : other.tapes = program.tapes
  rulesOf_eq : ∀ state, 0 ≤ state →
    other.rulesOf (name state) = (program.rulesOf state).map (Rule.rename name)

/-- Renaming keeps the rules of a state together as long as no other state gets its name. -/
theorem Program.WellFormed.corresponds_rename (wellFormed : program.WellFormed)
    (apart : Set.InjOn name {state | 0 ≤ state}) :
    program.Corresponds name (program.rename name) where
  tapes_eq := rfl
  rulesOf_eq := by
    intro state nonneg
    rw [Program.rulesOf, Program.rulesOf, Program.rename, List.filter_map]
    congr 1
    apply List.filter_congr
    intro rule member
    have source := (wellFormed.rules_wellFormed rule member).source_nonneg
    simp only [Function.comp_apply, Rule.rename]
    rw [Bool.eq_iff_iff, beq_iff_eq, beq_iff_eq]
    exact apart.eq_iff source nonneg

/-- The first rule that applies is found among the rules of the machine's state. -/
theorem Program.find?_applies (program : Program) (machine : Machine) :
    (program.rules.find? fun rule => decide (rule.Applies machine)) =
      (program.rulesOf machine.state).find? fun rule => decide (rule.Applies machine) := by
  rw [Program.rulesOf, List.find?_filter]
  congr 1
  funext rule
  by_cases same : rule.source = machine.state
  · simp [same]
  · have idle : ¬ rule.Applies machine := fun applies => same applies.1.symm
    simp [same, idle]

theorem Program.map_fst_firstApplicable? (program : Program) (machine : Machine) :
    (program.firstApplicable? machine).map Prod.fst =
      program.rules.find? fun rule => decide (rule.Applies machine) := by
  conv => rhs; rw [← List.zipIdx_map_fst 0 program.rules, List.find?_map]
  rfl

/-- Machines on a trajectory fit. -/
theorem Program.fits_of_trajectory {final : Machine} {count : Nat} (wellFormed : program.WellFormed)
    (fits : machine.Fits program.tapes) (reached : program.trajectory machine count = some final) :
    final.Fits program.tapes := by
  obtain ⟨positions, fired⟩ := exists_firings_of_trajectory wellFormed fits reached
  exact fits_of_firings wellFormed fits fired

/-- In its own state a rule applies under new names exactly if it does under the old ones. -/
theorem Rule.applies_rename (same : rule.source = machine.state) :
    (rule.rename name).Applies (machine.rename name) ↔ rule.Applies machine := by
  simp only [Rule.Applies, Rule.rename, Machine.rename, same, true_and]

/-- Two reference steps that come to the same, the machine of the second being renamed. The
positions of the rules may differ. -/
inductive Next.Alike (name : Renaming) : Next → Next → Prop where
  | halt : Alike name .halt .halt
  | overflow (tape : Nat) (value : Int) : Alike name (.overflow tape value) (.overflow tape value)
  | move (index position : Nat) (machine : Machine) :
      Alike name (.move index machine) (.move position (machine.rename name))

namespace Program.Corresponds

variable {fuel : Int} {result : Except RunError (Nat × Machine)}
  (corresponds : program.Corresponds name other)
include corresponds

theorem firstApplicable?_eq (nonneg : 0 ≤ machine.state) :
    (other.firstApplicable? (machine.rename name)).map Prod.fst =
      ((program.firstApplicable? machine).map Prod.fst).map (Rule.rename name) := by
  rw [map_fst_firstApplicable?, map_fst_firstApplicable?, find?_applies, find?_applies program]
  have renamed := corresponds.rulesOf_eq machine.state nonneg
  rw [Machine.rename, renamed, List.find?_map]
  congr 1
  apply List.find?_congr
  intro rule member
  have same : rule.source = machine.state := by simpa [rulesOf] using (List.mem_filter.1 member).2
  rw [Function.comp_apply, decide_eq_decide]
  exact Rule.applies_rename same

/-- Corresponding programs step alike on corresponding machines. -/
theorem next_alike (nonneg : 0 ≤ machine.state) :
    Next.Alike name (program.next machine) (other.next (machine.rename name)) := by
  have found := corresponds.firstApplicable?_eq nonneg
  cases first : program.firstApplicable? machine with
  | none =>
      rw [first, Option.map_none, Option.map_none, Option.map_eq_none_iff] at found
      simp only [next, first, found]
      exact .halt
  | some entry =>
      obtain ⟨rule, index⟩ := entry
      rw [first, Option.map_some, Option.map_some, Option.map_eq_some_iff] at found
      obtain ⟨⟨renamed, position⟩, otherFirst, same⟩ := found
      simp only at same
      subst same
      simp only [next, first, otherFirst]
      simp only [Rule.rename, Machine.rename]
      cases (List.zipWith (· + ·) machine.counters rule.adjustments).zipIdx.find?
          fun entry => decide (maxValue < entry.1) with
      | none => exact .move index position ⟨rule.target, _⟩
      | some entry => exact .overflow entry.2 entry.1

theorem trajectory_eq (wellFormed : program.WellFormed) (fits : machine.Fits program.tapes)
    (count : Nat) :
    other.trajectory (machine.rename name) count =
      (program.trajectory machine count).map (Machine.rename name) := by
  induction count with
  | zero => rfl
  | succ count ih =>
      rw [trajectory, trajectory, ih]
      cases reached : program.trajectory machine count with
      | none => rfl
      | some current =>
          have alike := corresponds.next_alike
            (fits_of_trajectory wellFormed fits reached).state_nonneg
          simp only [Option.map_some]
          generalize program.next current = step, other.next (current.rename name) = otherStep
            at alike
          cases alike with
          | halt => rfl
          | overflow tape value => rfl
          | move index position after => rfl

/-- A run under new names concludes as the run under the old ones. -/
theorem concludes (wellFormed : program.WellFormed) (fits : machine.Fits program.tapes)
    (concludes : program.Concludes machine fuel result) :
    other.Concludes (machine.rename name) fuel
      (result.map (Prod.map id (Machine.rename name))) := by
  have reaches := corresponds.trajectory_eq wellFormed fits
  cases concludes with
  | @halts count final reached halted affordable =>
      have alike := corresponds.next_alike
        (fits_of_trajectory wellFormed fits reached).state_nonneg
      rw [halted] at alike
      generalize next : other.next (final.rename name) = step at alike
      cases alike with
      | halt =>
          have renamed := reaches count
          rw [reached] at renamed
          exact .halts renamed next affordable
  | @overflows count tape last value reached overflowed affordable =>
      have alike := corresponds.next_alike
        (fits_of_trajectory wellFormed fits reached).state_nonneg
      rw [overflowed] at alike
      generalize next : other.next (last.rename name) = step at alike
      cases alike with
      | overflow =>
          have renamed := reaches count
          rw [reached] at renamed
          exact .overflows renamed next affordable
  | @spends count last all reached =>
      have renamed := reaches count
      rw [reached] at renamed
      exact .spends all renamed

theorem interpret_eq (wellFormed : program.WellFormed) (otherWellFormed : other.WellFormed)
    (fits : machine.Fits program.tapes) (otherFits : (machine.rename name).Fits other.tapes)
    (nonneg : 0 ≤ fuel) :
    interpret (machine.rename name).toDraft other.toDraft fuel =
      (interpret machine.toDraft program.toDraft fuel).map
        (Prod.map id (Machine.rename name)) := by
  obtain ⟨result, concludes⟩ := exists_concludes wellFormed fits fuel
  rw [interpret_of_concludes wellFormed fits nonneg concludes]
  exact interpret_of_concludes otherWellFormed otherFits nonneg
    (corresponds.concludes wellFormed fits concludes)

end Program.Corresponds

/-- Two programs with the same number of tapes, which have for every state the same rules in the
same order, cannot be told apart by running them: on every machine and with all fuel they return the
same or fail alike. -/
theorem interpret_of_same_order (draft mixedDraft : DraftProgram) (program mixed : Program)
    (valid : draft.accept = .ok program) (mixedValid : mixedDraft.accept = .ok mixed)
    (sameTapes : mixed.tapes = program.tapes)
    (sameOrder : ∀ state, mixed.rulesOf state = program.rulesOf state)
    (machineDraft : DraftMachine) (machine : Machine)
    (machineValid : machineDraft.accept program.tapes = .ok machine) (fuel : Int)
    (nonneg : 0 ≤ fuel) :
    interpret machineDraft mixedDraft fuel = interpret machineDraft draft fuel := by
  obtain ⟨rfl, wellFormed⟩ := DraftProgram.accept_eq_ok.1 valid
  obtain ⟨rfl, mixedWellFormed⟩ := DraftProgram.accept_eq_ok.1 mixedValid
  obtain ⟨rfl, fits⟩ := DraftMachine.accept_eq_ok.1 machineValid
  have corresponds : program.Corresponds id mixed := by
    refine ⟨sameTapes, ?_⟩
    intro state _
    rw [id, sameOrder state, List.map_congr_left fun rule _ => Rule.rename_id rule, List.map_id']
  have mixedFits : (machine.rename id).Fits mixed.tapes := sameTapes ▸ fits
  have unchanged : Machine.rename id = id := funext Machine.rename_id
  have same := corresponds.interpret_eq wellFormed mixedWellFormed fits mixedFits nonneg
  rwa [unchanged, Prod.map_id, Except.map_id] at same

/-- A rule of state `1` that stands after a rule of state `0` or before it. -/
theorem interpret_of_same_order_two_states :
    interpret (Machine.toDraft ⟨0, [0, 2]⟩)
        (Program.toDraft ⟨2, [⟨0, 1, [0, -1]⟩, ⟨1, 0, [1, 0]⟩, ⟨0, 2, [-2, 0]⟩]⟩) 6 =
      .ok (5, ⟨2, [0, 0]⟩) ∧
    interpret (Machine.toDraft ⟨0, [0, 2]⟩)
        (Program.toDraft ⟨2, [⟨1, 0, [1, 0]⟩, ⟨0, 1, [0, -1]⟩, ⟨0, 2, [-2, 0]⟩]⟩) 6 =
      .ok (5, ⟨2, [0, 0]⟩) := by
  have valid : DraftProgram.accept (Program.toDraft
      ⟨2, [⟨0, 1, [0, -1]⟩, ⟨1, 0, [1, 0]⟩, ⟨0, 2, [-2, 0]⟩]⟩) =
      .ok ⟨2, [⟨0, 1, [0, -1]⟩, ⟨1, 0, [1, 0]⟩, ⟨0, 2, [-2, 0]⟩]⟩ := rfl
  have mixedValid : DraftProgram.accept (Program.toDraft
      ⟨2, [⟨1, 0, [1, 0]⟩, ⟨0, 1, [0, -1]⟩, ⟨0, 2, [-2, 0]⟩]⟩) =
      .ok ⟨2, [⟨1, 0, [1, 0]⟩, ⟨0, 1, [0, -1]⟩, ⟨0, 2, [-2, 0]⟩]⟩ := rfl
  have machineValid : DraftMachine.accept 2 (Machine.toDraft ⟨0, [0, 2]⟩) = .ok ⟨0, [0, 2]⟩ := rfl
  have returned : interpret (Machine.toDraft ⟨0, [0, 2]⟩)
      (Program.toDraft ⟨2, [⟨0, 1, [0, -1]⟩, ⟨1, 0, [1, 0]⟩, ⟨0, 2, [-2, 0]⟩]⟩) 6 =
      .ok (5, ⟨2, [0, 0]⟩) :=
    interpret_of_concludes (DraftProgram.accept_eq_ok.1 valid).2
      (DraftMachine.accept_eq_ok.1 machineValid).2 (by decide)
      (.halts rfl (by decide) (.inr (by decide)))
  refine ⟨returned, ?_⟩
  rw [← returned]
  apply interpret_of_same_order _ _ _ _ valid mixedValid rfl _ _ _ machineValid 6 (by decide)
  intro state
  by_cases first : state = 0
  · subst first
    rfl
  · have other : (0 == state) = false := beq_false_of_ne (Ne.symm first)
    simp [Program.rulesOf, List.filter_cons, other]

/-- Runs commute with renaming the states. Whatever numbers the states of a program and a machine
are, others that do not merge any two of them give the same run: the same number of firings, with
the final machine renamed, or the very same error. -/
theorem interpret_rename (name : Renaming) (keeps : ∀ state, 0 ≤ state → 0 ≤ name state)
    (apart : Set.InjOn name {state | 0 ≤ state}) (draft : DraftProgram) (program : Program)
    (valid : draft.accept = .ok program) (machineDraft : DraftMachine) (machine : Machine)
    (machineValid : machineDraft.accept program.tapes = .ok machine) (fuel : Int)
    (nonneg : 0 ≤ fuel) :
    interpret (machine.rename name).toDraft (program.rename name).toDraft fuel =
      (interpret machineDraft draft fuel).map (Prod.map id (Machine.rename name)) := by
  obtain ⟨rfl, wellFormed⟩ := DraftProgram.accept_eq_ok.1 valid
  obtain ⟨rfl, fits⟩ := DraftMachine.accept_eq_ok.1 machineValid
  exact (wellFormed.corresponds_rename apart).interpret_eq wellFormed (wellFormed.rename keeps) fits
    (fits.rename keeps) nonneg

/-- The states `0` and `7` are exchanged: a run that returns in `7` returns in `0`, and an overflow
stays what it is. -/
theorem interpret_rename_exchanged :
    interpret (Machine.toDraft ⟨7, [0, 2]⟩)
        (Program.toDraft ⟨2, [⟨7, 7, [1, -1]⟩, ⟨7, 0, [-2, 0]⟩]⟩) 4 = .ok (3, ⟨0, [0, 0]⟩) ∧
    interpret (Machine.toDraft ⟨7, [maxValue, 2]⟩)
        (Program.toDraft ⟨2, [⟨7, 7, [1, -1]⟩, ⟨7, 0, [-2, 0]⟩]⟩) 4 =
      .error (.fault (.overflow 0 (maxValue + 1))) := by
  have keeps : ∀ state : Int, 0 ≤ state →
      0 ≤ if state = 0 then 7 else if state = 7 then 0 else state := by
    intro state nonneg
    grind
  have apart : Set.InjOn
      (fun state : Int => if state = 0 then 7 else if state = 7 then 0 else state)
      {state | 0 ≤ state} := by
    intro left _ right _ same
    simp only at same
    grind
  have valid : DraftProgram.accept (Program.toDraft ⟨2, [⟨0, 0, [1, -1]⟩, ⟨0, 7, [-2, 0]⟩]⟩) =
      .ok ⟨2, [⟨0, 0, [1, -1]⟩, ⟨0, 7, [-2, 0]⟩]⟩ := rfl
  have machineValid : DraftMachine.accept 2 (Machine.toDraft ⟨0, [0, 2]⟩) = .ok ⟨0, [0, 2]⟩ := rfl
  have fullValid : DraftMachine.accept 2 (Machine.toDraft ⟨0, [maxValue, 2]⟩) =
      .ok ⟨0, [maxValue, 2]⟩ := rfl
  have wellFormed := (DraftProgram.accept_eq_ok.1 valid).2
  have returned : interpret (Machine.toDraft ⟨0, [0, 2]⟩)
      (Program.toDraft ⟨2, [⟨0, 0, [1, -1]⟩, ⟨0, 7, [-2, 0]⟩]⟩) 4 = .ok (3, ⟨7, [0, 0]⟩) :=
    interpret_of_concludes wellFormed (DraftMachine.accept_eq_ok.1 machineValid).2 (by decide)
      (.halts rfl (by decide) (.inr (by decide)))
  have overflowed : interpret (Machine.toDraft ⟨0, [maxValue, 2]⟩)
      (Program.toDraft ⟨2, [⟨0, 0, [1, -1]⟩, ⟨0, 7, [-2, 0]⟩]⟩) 4 =
      .error (.fault (.overflow 0 (maxValue + 1))) :=
    interpret_of_concludes wellFormed (DraftMachine.accept_eq_ok.1 fullValid).2 (by decide)
      (.overflows rfl (by decide) (.inl rfl))
  have renamed := interpret_rename _ keeps apart _ _ valid
  have first := renamed _ _ machineValid 4 (by decide)
  have second := renamed _ _ fullValid 4 (by decide)
  rw [returned] at first
  rw [overflowed] at second
  exact ⟨first, second⟩

end CounterMachine
