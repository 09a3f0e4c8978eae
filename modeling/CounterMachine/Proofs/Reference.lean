import CounterMachine.Proofs.History

/-!
# The reference trajectory

The meaning of a program, said in the shortest way and without sessions, budgets or faults. On a
machine the first rule that applies is taken. If there is none the machine halts; if adding the
adjustments pushes a counter above `maxValue`, the lowest such tape overflows; otherwise all
adjustments are added and the state is switched. Iterating this from a machine gives its
trajectory.

The main theorem places sessions on it: whatever is done to a session after a load, it stands at
the machine of the trajectory that belongs to its number of firings, and its trace is the
trajectory so far.
-/

namespace CounterMachine

/-- What the reference step makes of a machine. -/
inductive Next where
  | halt
  /-- The lowest tape that would exceed `maxValue`, and the value it would have. -/
  | overflow (tape : Nat) (value : Int)
  /-- The rule at a position moves the machine. -/
  | move (index : Nat) (machine : Machine)
  deriving DecidableEq

namespace Program

variable {program : Program} {machine after start : Machine} {rule : Rule}

/-- The first rule in program order that applies, with its position. -/
def firstApplicable? (program : Program) (machine : Machine) : Option (Rule × Nat) :=
  program.rules.zipIdx.find? fun entry => decide (entry.1.Applies machine)

/-- The reference step. -/
def next (program : Program) (machine : Machine) : Next :=
  match program.firstApplicable? machine with
  | none => .halt
  | some (rule, index) =>
      let counters := List.zipWith (· + ·) machine.counters rule.adjustments
      match counters.zipIdx.find? fun entry => decide (maxValue < entry.1) with
      | some (value, tape) => .overflow tape value
      | none => .move index ⟨rule.target, counters⟩

/-- The machine after a number of reference steps, if each of them moves. -/
def trajectory (program : Program) (start : Machine) : Nat → Option Machine
  | 0 => some start
  | count + 1 =>
      match program.trajectory start count with
      | none => none
      | some machine =>
          match program.next machine with
          | .move _ after => some after
          | .halt | .overflow _ _ => none

theorem firstApplicable?_of_selects {before rest : List Rule}
    (selects : program.Selects machine before rule rest) :
    program.firstApplicable? machine = some (rule, before.length) := by
  have skipped : (before.zipIdx 0).find? (fun entry => decide (entry.1.Applies machine)) =
      none := by
    simp only [List.find?_eq_none, decide_eq_true_eq]
    intro entry member
    exact selects.skipped entry.1 (List.fst_mem_of_mem_zipIdx member)
  rw [firstApplicable?, selects.split, List.zipIdx_append, List.find?_append, skipped]
  simp [selects.applies]

theorem firstApplicable?_of_idle (idle : ∀ rule ∈ program.rules, ¬ rule.Applies machine) :
    program.firstApplicable? machine = none := by
  simp only [firstApplicable?, List.find?_eq_none, decide_eq_true_eq]
  intro entry member
  exact idle entry.1 (List.fst_mem_of_mem_zipIdx member)

theorem next_of_fired {index : Nat} (wellFormed : program.WellFormed)
    (fits : machine.Fits program.tapes)
    (fired : program.scan machine = .fired index rule after) :
    program.next machine = .move index after := by
  obtain ⟨before, rest, selects, rfl, noOverflow, rfl⟩ := scan_fired wellFormed fits fired
  rw [firstOverflow?_eq_find?, Option.map_eq_none_iff, Rule.adjust] at noOverflow
  simp only [next, firstApplicable?_of_selects selects, noOverflow, Rule.adjust]

theorem next_of_overflow {tape : Nat} {value : Int} (wellFormed : program.WellFormed)
    (fits : machine.Fits program.tapes)
    (faulted : program.scan machine = .faulted (.overflow tape value) after) :
    program.next machine = .overflow tape value := by
  obtain ⟨before, rule, rest, selects, overflow, -⟩ := scan_faulted wellFormed fits faulted
  rw [firstOverflow?_eq_find?, Option.map_eq_some_iff, Rule.adjust] at overflow
  obtain ⟨⟨value, tape⟩, found, same⟩ := overflow
  obtain ⟨rfl, rfl⟩ := Fault.overflow.inj same
  simp only [next, firstApplicable?_of_selects selects, found]

theorem next_of_halted (wellFormed : program.WellFormed) (fits : machine.Fits program.tapes)
    (halted : program.scan machine = .halted) : program.next machine = .halt := by
  simp only [next, firstApplicable?_of_idle (scan_halted wellFormed fits halted)]

/-- The trajectory consists of the machines that firing reaches. -/
theorem trajectory_eq_firings (wellFormed : program.WellFormed) (fits : start.Fits program.tapes)
    (count : Nat) :
    program.trajectory start count = (program.firings start count).map Prod.snd := by
  induction count with
  | zero => rfl
  | succ count ih =>
      rw [trajectory, ih, firings]
      cases reached : program.firings start count with
      | none => rfl
      | some run =>
          obtain ⟨positions, machine⟩ := run
          have machineFits := fits_of_firings wellFormed fits reached
          simp only [Option.map_some]
          cases scanned : program.scan machine with
          | fired index rule after => simp [next_of_fired wellFormed machineFits scanned]
          | halted => simp [next_of_halted wellFormed machineFits scanned]
          | faulted fault left =>
              obtain ⟨before, rule, rest, -, overflow, -⟩ :=
                scan_faulted wellFormed machineFits scanned
              obtain ⟨tape, value, rfl⟩ := exists_overflow_of_firstOverflow? overflow
              simp [next_of_overflow wellFormed machineFits scanned]

theorem trajectory_of_firings {count : Nat} {positions : List Nat}
    (wellFormed : program.WellFormed) (fits : start.Fits program.tapes)
    (reached : program.firings start count = some (positions, machine)) :
    program.trajectory start count = some machine := by
  rw [trajectory_eq_firings wellFormed fits, reached, Option.map_some]

end Program

namespace Session

/-- The session stands at the machine of the trajectory that belongs to its number of firings, and
its trace is the trajectory up to there, firing by firing. -/
structure OnTrajectory (session : Session) (program : Program) (start : Machine) : Prop where
  current : ∃ machine, session.machine = some machine ∧
    program.trajectory start session.steps = some machine ∧
    (session.halted = true → ∀ rule ∈ program.rules, ¬ rule.Applies machine)
  trace_size : session.trace.size = session.steps
  trace_entry : ∀ number entry, session.trace[number]? = some entry →
    entry.step = number ∧ program.rules[entry.ruleIndex]? = some entry.rule ∧
      ∃ before after, entry.before = some before ∧ entry.after = some after ∧
        program.trajectory start number = some before ∧
        program.trajectory start (number + 1) = some after ∧
        program.firstApplicable? before = some (entry.rule, entry.ruleIndex)

theorem Follows.onTrajectory {session : Session} {start machine : Machine} {positions : List Nat}
    (follows : session.Follows start positions machine) (recording : session.recording = true) :
    session.OnTrajectory session.program start where
  current := by
    refine ⟨machine, follows.current,
      Program.trajectory_of_firings follows.wellFormed follows.fits follows.reached, ?_⟩
    intro halted
    exact Program.scan_halted follows.wellFormed follows.machine_fits (follows.halts halted)
  trace_size := follows.trace_size recording
  trace_entry := by
    intro number entry found
    obtain ⟨step_eq, earlier, before, after, reached, fired, before_eq, after_eq⟩ :=
      follows.entries recording number entry found
    have beforeFits := Program.fits_of_firings follows.wellFormed follows.fits reached
    obtain ⟨skipped, rest, selects, position, -, -⟩ :=
      Program.scan_fired follows.wellFormed beforeFits fired
    refine ⟨step_eq, position ▸ selects.getElem?, before, after, before_eq, after_eq, ?_, ?_, ?_⟩
    · exact Program.trajectory_of_firings follows.wellFormed follows.fits reached
    · exact Program.trajectory_of_firings follows.wellFormed follows.fits
        (Program.firings_succ_of_fired reached fired)
    · exact position ▸ Program.firstApplicable?_of_selects selects

/-- A recording session is always on the trajectory of the machine it was last given. However it is
stepped, run and given new budgets, it has fired at most once or as often as the largest budget
in effect since the load. -/
theorem onTrajectory_since_load (draft : DraftProgram) (program : Program)
    (valid : draft.accept = .ok program) (fuel : Int) (nonneg : 0 ≤ fuel) :
    ∃ session, Session.start draft fuel true = .ok session ∧
      ∀ (earlier : List Action) (machine : DraftMachine) (loaded : Session),
        (session.after earlier).load machine = .ok loaded →
        ∀ later : List Action, loaded.NoLoad later →
          (∃ start : Machine, machine = start.toDraft ∧
            (loaded.after later).OnTrajectory program start) ∧
          ((loaded.after later).steps : Int) ≤ max 1 (largestFuel loaded.fuel later) := by
  obtain ⟨same, wellFormed⟩ := DraftProgram.accept_eq_ok.1 valid
  refine ⟨_, start_eq_ok.2 ⟨program, same, wellFormed, nonneg, rfl⟩, ?_⟩
  intro earlier machine loaded load later noLoad
  obtain ⟨start, rfl, fits, loaded_eq⟩ := load_eq_ok.1 load
  have opened := after_keeps { program, fuel, recording := true } earlier
  have kept := after_keeps loaded later
  have loadedProgram : loaded.program = program := by
    rw [loaded_eq]
    exact opened.1
  have loadedRecording : loaded.recording = true := by
    rw [loaded_eq]
    exact opened.2
  have tracks := tracks_of_load (by rw [opened.1]; exact wellFormed) load noLoad
  obtain ⟨positions, current, follows⟩ := tracks.follows
  have onTrajectory := follows.onTrajectory (kept.2.trans loadedRecording)
  rw [kept.1.trans loadedProgram] at onTrajectory
  exact ⟨⟨start, rfl, onTrajectory⟩, tracks.steps_le⟩

/-- The budget runs out after one firing, is taken away and given again. -/
theorem onTrajectory_through_budgets :
    ∃ session loaded, Session.start (Program.toDraft ⟨2, [⟨0, 0, [1, -1]⟩]⟩) 1 true = .ok session ∧
      (session.after [.setFuel 2]).load (Machine.toDraft ⟨0, [0, 3]⟩) = .ok loaded ∧
      (loaded.after [.step, .setFuel (-5), .run, .setFuel 9, .run]).OnTrajectory
        ⟨2, [⟨0, 0, [1, -1]⟩]⟩ ⟨0, [0, 3]⟩ ∧
      ((loaded.after [.step, .setFuel (-5), .run, .setFuel 9, .run]).steps : Int) ≤
        max 1 (largestFuel loaded.fuel [.step, .setFuel (-5), .run, .setFuel 9, .run]) := by
  obtain ⟨session, opened, follows⟩ := onTrajectory_since_load
    (Program.toDraft ⟨2, [⟨0, 0, [1, -1]⟩]⟩) ⟨2, [⟨0, 0, [1, -1]⟩]⟩ rfl 1 (by decide)
  obtain rfl := Except.ok.inj opened
  obtain ⟨⟨start, same, onTrajectory⟩, bound⟩ := follows [.setFuel 2]
    (Machine.toDraft ⟨0, [0, 3]⟩) _ rfl [.step, .setFuel (-5), .run, .setFuel 9, .run]
    (by intro draft member; simp at member)
  have sameStart : start = ⟨0, [0, 3]⟩ := by
    rw [← Machine.toMachine_toDraft start, ← same, Machine.toMachine_toDraft]
  exact ⟨_, _, rfl, rfl, sameStart ▸ onTrajectory, bound⟩

end Session

end CounterMachine
