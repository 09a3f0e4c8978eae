import CounterMachine.Elimination.Emulated
import CounterMachine.Proofs.History
import CounterMachine.Proofs.Replay
import Mathlib.Data.List.Nodup

/-!
# Decoding the token

The emulated state is read off the flags of a machine. With a token on one of the two flags of a
state this is that state, and without a token there is none. A session on the single-state form
keeps exactly one token, or none if it was loaded without, so its machine can always be decoded:
to the state of the source program after as many firings as there were work rules.
-/

namespace CounterMachine.Elimination

variable {program : Program} {machine reached current : Machine} {counters : List Int}
  {token : Option Nat} {state : Int}

/-- The token is on one of the two flags of the state. -/
def Marks (program : Program) (token : Option Nat) (state : Int) : Prop :=
  token = some (activeFlag program state) ∨ token = some (relayFlag program state)

instance (program : Program) (token : Option Nat) (state : Int) :
    Decidable (Marks program token state) :=
  inferInstanceAs (Decidable (_ ∨ _))

theorem marks_unique {other : Int} (mentioned : state ∈ program.states)
    (marks : Marks program token state) : Marks program token other ↔ other = state := by
  constructor
  · intro otherMarks
    cases marks with
    | inl active =>
        cases otherMarks with
        | inl otherActive =>
            have same := Option.some.inj (active.symm.trans otherActive)
            exact ((activeFlag_inj mentioned).1 same).symm
        | inr otherRelay =>
            exact absurd (Option.some.inj (active.symm.trans otherRelay))
              (activeFlag_ne_relayFlag _ _)
    | inr relay =>
        cases otherMarks with
        | inl otherActive =>
            exact absurd (Option.some.inj (otherActive.symm.trans relay))
              (activeFlag_ne_relayFlag _ _)
        | inr otherRelay =>
            have same := Option.some.inj (relay.symm.trans otherRelay)
            exact ((relayFlag_inj mentioned).1 same).symm
  · intro same
    rw [same]
    exact marks

/-- The flags of a machine, counted from the first extra tape. -/
theorem getElem?_tokenMachine {flag : Nat} (width : (counters.length : Int) = program.tapes)
    (inside : flag < 2 * program.states.length) :
    (tokenMachine program counters token).counters[program.tapes.toNat + flag]? =
      some (if token = some flag then 1 else 0) := by
  have front : program.tapes.toNat = counters.length := by omega
  simp [tokenMachine, flags, front, inside]

theorem isSet_tokenMachine {flag : Nat} {tape : Int}
    (width : (counters.length : Int) = program.tapes) (position : tape = program.tapes + flag)
    (inside : flag < 2 * program.states.length) :
    isSet (tokenMachine program counters token) tape = .ok (decide (token = some flag)) := by
  have front : tape = ((program.tapes.toNat + flag : Nat) : Int) := by omega
  have bound : program.tapes.toNat + flag <
      (tokenMachine program counters token).counters.length := by
    simp only [tokenMachine, List.length_append, length_flags]
    omega
  rw [isSet, Machine.counter?, entry?, front, position?_natCast bound, Option.bind_some,
    getElem?_tokenMachine width inside]
  by_cases holds : token = some flag
  · simp [holds]
  · simp [holds]

theorem isEmulated_tokenMachine (width : (counters.length : Int) = program.tapes)
    (mentioned : state ∈ program.states) :
    isEmulated program.tapes (tokenMachine program counters token) (rank program state) =
      .ok (decide (Marks program token state)) := by
  have active : isSet (tokenMachine program counters token)
      (activeTape program.tapes (rank program state)) =
      .ok (decide (token = some (activeFlag program state))) := by
    apply isSet_tokenMachine width _ (activeFlag_lt mentioned)
    simp [activeTape, activeFlag]
  have relay : isSet (tokenMachine program counters token)
      (relayTape program.tapes (rank program state)) =
      .ok (decide (token = some (relayFlag program state))) := by
    apply isSet_tokenMachine width _ (relayFlag_lt mentioned)
    simp [relayTape, relayFlag, Int.add_assoc]
  simp only [isEmulated, active, relay, bind, Except.bind, Marks]
  by_cases holds : token = some (activeFlag program state)
  · simp [holds, pure, Except.pure]
  · simp [holds]

theorem numbering_eq_map_rank :
    numbering program = program.states.map fun state => (state, (rank program state : Int)) := by
  apply List.ext_getElem
  · simp
  · intro number left right
    simp [numbering, rank, program.nodup_states.idxOf_getElem]

theorem emulatedStates_tokenMachine {states : List Int}
    (width : (counters.length : Int) = program.tapes)
    (mentioned : ∀ state ∈ states, state ∈ program.states) :
    emulatedStates program.tapes (tokenMachine program counters token)
        (states.map fun state => (state, (rank program state : Int))) =
      .ok (states.filter fun state => decide (Marks program token state)) := by
  induction states with
  | nil => rfl
  | cons state rest ih =>
      rw [List.map_cons, emulatedStates,
        isEmulated_tokenMachine width (mentioned state List.mem_cons_self),
        ih fun other member => mentioned other (List.mem_cons_of_mem _ member), List.filter_cons]
      rfl

theorem emulatedState_tokenMachine (width : (counters.length : Int) = program.tapes) :
    emulatedState (tokenMachine program counters token) program =
      match program.states.filter fun state => decide (Marks program token state) with
      | [] => .ok none
      | [state] => .ok (some state)
      | states => .error (.several states) := by
  have tapes : ((tokenMachine program counters token).width : Int) = tapeCount program := by
    simp only [Machine.width, tokenMachine, List.length_append, length_flags, tapeCount,
      length_numbering]
    omega
  have found : emulatedStates program.tapes (tokenMachine program counters token)
      (numbering program) =
      .ok (program.states.filter fun state => decide (Marks program token state)) := by
    rw [numbering_eq_map_rank]
    exact emulatedStates_tokenMachine width fun _ member => member
  simp only [emulatedState, tapes, found, ne_eq, not_true_eq_false, ↓reduceIte]
  rfl

theorem emulatedState_of_marks (width : (counters.length : Int) = program.tapes)
    (mentioned : state ∈ program.states) (marks : Marks program token state) :
    emulatedState (tokenMachine program counters token) program = .ok (some state) := by
  have only : program.states.filter (fun other => decide (Marks program token other)) =
      [state] := by
    simp only [marks_unique mentioned marks]
    rw [List.filter_eq, List.nodup_iff_count_eq_one.1 program.nodup_states state mentioned]
    rfl
  rw [emulatedState_tokenMachine width, only]

theorem emulatedState_without_token (width : (counters.length : Int) = program.tapes) :
    emulatedState (tokenMachine program counters none) program = .ok none := by
  have nothing : program.states.filter (fun state => decide (Marks program none state)) = [] := by
    simp [Marks]
  rw [emulatedState_tokenMachine width, nothing]

/-- The extra tapes hold `1` where the token is, if there is one, and `0` everywhere else. -/
structure HoldsToken (program : Program) (machine : Machine) (token : Option Nat) : Prop where
  width : (machine.width : Int) = program.tapes + 2 * program.states.length
  inside : ∀ flag, token = some flag → flag < 2 * program.states.length
  flags : ∀ flag < 2 * program.states.length,
    machine.counters[program.tapes.toNat + flag]? = some (if token = some flag then 1 else 0)

theorem holdsToken_tokenMachine (width : (counters.length : Int) = program.tapes)
    (inside : ∀ flag, token = some flag → flag < 2 * program.states.length) :
    HoldsToken program (tokenMachine program counters token) token where
  width := by
    simp only [Machine.width, tokenMachine, List.length_append, length_flags]
    omega
  inside := inside
  flags := fun _ below => getElem?_tokenMachine width below

/-- The token is on a flag of the state that has been reached. -/
theorem Emulates.decoded (emulates : Emulates program reached current)
    (fits : reached.Fits program.tapes) (mentioned : reached.state ∈ program.states) :
    (∃ flag, HoldsToken program current (some flag)) ∧
      emulatedState current program = .ok (some reached.state) := by
  cases emulates with
  | settled =>
      rw [encoded, if_pos mentioned]
      constructor
      · refine ⟨_, holdsToken_tokenMachine fits.width_eq ?_⟩
        intro flag same
        exact Option.some.inj same ▸ activeFlag_lt mentioned
      · exact emulatedState_of_marks fits.width_eq mentioned (.inl rfl)
  | pending member loops same =>
      constructor
      · refine ⟨_, holdsToken_tokenMachine fits.width_eq ?_⟩
        intro flag same
        exact Option.some.inj same ▸ relayFlag_lt mentioned
      · exact emulatedState_of_marks fits.width_eq mentioned (.inr rfl)

section Run

variable {count : Nat} {positions : List Nat} (wellFormed : program.WellFormed)
  (fits : machine.Fits program.tapes)
  (replayed : (singleForm program).firings (encoded program machine) count =
    some (positions, current))
include wellFormed fits replayed

/-- Whatever has been fired from a state of the program, there is one token, and it tells the state
that the work rules stand for. -/
theorem decoded_of_firings (mentioned : machine.state ∈ program.states) :
    (∃ flag, HoldsToken program current (some flag)) ∧
      ∃ indices reached,
        program.firings machine (positions.countP fun position => !isReturn program position) =
          some (indices, reached) ∧
        emulatedState current program = .ok (some reached.state) := by
  obtain ⟨indices, reached, ran, emulates⟩ := emulates_of_firings wellFormed fits replayed
  obtain ⟨token, decoded⟩ := emulates.decoded (Program.fits_of_firings wellFormed fits ran)
    (Program.mem_states_of_firings wellFormed fits mentioned ran)
  exact ⟨token, indices, reached, ran, decoded⟩

/-- Without a token nothing is ever fired. -/
theorem idle_of_firings (unmentioned : machine.state ∉ program.states) :
    HoldsToken program current none ∧ count = 0 ∧ emulatedState current program = .ok none := by
  have halted := scan_encoded_of_halted wellFormed fits
    (Program.scan_of_unmentioned wellFormed fits unmentioned)
  have stops : (singleForm program).Stops (encoded program machine) := by
    intro position rule after fired
    simp [halted] at fired
  cases count with
  | zero =>
      cases replayed
      rw [encoded, if_neg unmentioned]
      refine ⟨holdsToken_tokenMachine fits.width_eq ?_, rfl, ?_⟩
      · intro flag same
        simp at same
      · exact emulatedState_without_token fits.width_eq
  | succ count =>
      rw [stops.firings_eq_none Program.firings_zero (Nat.succ_pos count)] at replayed
      simp at replayed

end Run

/-! ## Sessions on the single-state form -/

/-- A session on the single-state form can be decoded at every moment. Whatever is done after the
load, the session stands where some firings have led. If the state of the source machine is
mentioned, exactly one flag is set and it decodes to the state that the source program reaches by
as many firings as work rules have fired. Else no flag is ever set and nothing ever fires. -/
theorem emulatedState_throughout_session (draft : DraftProgram) (program : Program)
    (valid : draft.accept = .ok program) (machineDraft : DraftMachine) (machine : Machine)
    (machineValid : machineDraft.accept program.tapes = .ok machine)
    (fuel : Int) (nonneg : 0 ≤ fuel) (recording : Bool) :
    ∃ single first session loaded,
      eliminate draft = .ok single ∧ eliminateMachine machineDraft draft = .ok first ∧
      Session.start single.toDraft fuel recording = .ok session ∧
      session.load first.toDraft = .ok loaded ∧ LaidOut program single ∧
      ∀ history : List Session.Action, loaded.NoLoad history →
        ∃ positions current, (loaded.after history).machine = some current ∧
          single.firings first (loaded.after history).steps = some (positions, current) ∧
          (recording = true →
            (loaded.after history).trace.toList.map Firing.ruleIndex = positions) ∧
          if machine.state ∈ program.states then
            (∃ flag, HoldsToken program current (some flag)) ∧
            ∃ indices reached,
              program.firings machine
                  (positions.countP fun position => !isReturn program position) =
                some (indices, reached) ∧
              emulatedState current program = .ok (some reached.state)
          else
            HoldsToken program current none ∧ (loaded.after history).steps = 0 ∧
              emulatedState current program = .ok none := by
  obtain ⟨rfl, wellFormed⟩ := DraftProgram.accept_eq_ok.1 valid
  obtain ⟨rfl, fits⟩ := DraftMachine.accept_eq_ok.1 machineValid
  have singleWellFormed := wellFormed_singleForm wellFormed
  obtain ⟨loaded, load⟩ : ∃ loaded, Session.load { program := singleForm program, fuel, recording }
      (encoded program machine).toDraft = .ok loaded :=
    ⟨_, Session.load_eq_ok.2 ⟨encoded program machine, rfl, fits_encoded fits, rfl⟩⟩
  refine ⟨singleForm program, encoded program machine, _, loaded, eliminate_eq wellFormed,
    eliminateMachine_eq wellFormed fits,
    Session.start_eq_ok.2 ⟨singleForm program, rfl, singleWellFormed, nonneg, rfl⟩, load,
    laidOut_singleForm wellFormed, ?_⟩
  intro history noLoad
  obtain ⟨positions, current, follows⟩ :=
    (Session.tracks_of_load singleWellFormed load noLoad).follows
  have kept : (loaded.after history).program = singleForm program ∧
      (loaded.after history).recording = recording := by
    obtain ⟨-, -, -, rfl⟩ := Session.load_eq_ok.1 load
    exact Session.after_keeps _ history
  have reached := follows.reached
  rw [kept.1] at reached
  refine ⟨positions, current, follows.current, reached,
    fun records => follows.traced (kept.2.trans records), ?_⟩
  split
  next mentioned => exact decoded_of_firings wellFormed fits reached mentioned
  next unmentioned => exact idle_of_firings wellFormed fits reached unmentioned

/-- Fuel that runs out in the middle of a self-loop leaves a machine that decodes to the state of
the loop. -/
theorem emulatedState_within_self_loop :
    ∃ single first session loaded current,
      eliminate (Program.toDraft ⟨1, [⟨3, 3, [-1]⟩]⟩) = .ok single ∧
      eliminateMachine (Machine.toDraft ⟨3, [2]⟩) (Program.toDraft ⟨1, [⟨3, 3, [-1]⟩]⟩) =
        .ok first ∧
      Session.start single.toDraft 1 true = .ok session ∧
      session.load first.toDraft = .ok loaded ∧
      (loaded.after [.run, .step]).machine = some current ∧
      (∃ flag, HoldsToken ⟨1, [⟨3, 3, [-1]⟩]⟩ current (some flag)) ∧
      emulatedState current ⟨1, [⟨3, 3, [-1]⟩]⟩ = .ok (some 3) := by
  have valid : DraftProgram.accept (Program.toDraft ⟨1, [⟨3, 3, [-1]⟩]⟩) =
      .ok ⟨1, [⟨3, 3, [-1]⟩]⟩ := rfl
  have machineValid : DraftMachine.accept 1 (Machine.toDraft ⟨3, [2]⟩) = .ok ⟨3, [2]⟩ := rfl
  obtain ⟨single, first, session, loaded, eliminated, encodedFirst, start, load, -, decoded⟩ :=
    emulatedState_throughout_session _ _ valid _ _ machineValid 1 (by decide) true
  obtain ⟨positions, current, holds, -, -, token⟩ :=
    decoded [.run, .step] (by intro draft member; simp at member)
  rw [if_pos (by decide)] at token
  obtain ⟨flag, indices, reached, ran, emulated⟩ := token
  have stays : reached.state ∈ [3] :=
    Program.mem_states_of_firings (DraftProgram.accept_eq_ok.1 valid).2
      (DraftMachine.accept_eq_ok.1 machineValid).2 (by decide) ran
  rw [List.mem_singleton.1 stays] at emulated
  exact ⟨single, first, session, loaded, current, eliminated, encodedFirst, start, load, holds,
    flag, emulated⟩

end CounterMachine.Elimination
