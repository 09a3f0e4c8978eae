import CounterMachine.CommandLine.Command
import CounterMachine.Playground
import CounterMachine.Proofs.Decoding
import CounterMachine.Proofs.Parsing
import CounterMachine.Proofs.Recording
import CounterMachine.Proofs.Safety
import CounterMachine.Proofs.Settings

/-!
# Two reports on one run

The page and the command run a listing in ways of their own. The page keeps a trace and shows what
has gone wrong as a text; the command keeps none and ends with an exit code. Given the same listing,
tapes, state and fuel, they nevertheless report the same. What there is to tell about a run is put
into an account, which each of the two lays out in its own words.
-/

namespace CounterMachine

open Text.Numeral (text listText isShowable)

theorem Listing.not_blank {source : String} {program : Program}
    (accepted : Listing.parseText source = .ok program) :
    source.toList.all Text.isBlank = false := by
  rcases (Listing.parse_eq_ok_iff.1 accepted).exists_not_blank with ⟨char, inside, dark⟩
  exact List.all_eq_false.2 ⟨char, inside, by simp [dark]⟩

namespace Launch

variable {program : Program} {machine : Machine} {draft : DraftMachine} {fuel : Int}
  {recording : Bool} {refusal : Refusal}

theorem session_of_refused (wellFormed : program.WellFormed) (nonneg : 0 ≤ fuel)
    (refused : draft.accept program.tapes = .error refusal) :
    Launch.session ⟨program, draft, fuel⟩ recording = .error (.malformed refusal) := by
  simp [session, Session.start_toDraft wellFormed nonneg, Session.load, refused, bind, Except.bind]

theorem session_of_fits (wellFormed : program.WellFormed) (nonneg : 0 ≤ fuel)
    (fits : machine.Fits program.tapes) :
    Launch.session ⟨program, machine.toDraft, fuel⟩ recording =
      .ok { program, fuel, recording, machine := some machine } := by
  have loaded := @Session.load_toDraft { program, fuel, recording } machine fits
  simp [session, Session.start_toDraft wellFormed nonneg, loaded, bind, Except.bind]

theorem eliminate_of_refused (wellFormed : program.WellFormed)
    (refused : draft.accept program.tapes = .error refusal) :
    Launch.eliminate ⟨program, draft, fuel⟩ = .error (.malformed refusal) := by
  have accepted : program.toDraft.accept = .ok program :=
    DraftProgram.accept_eq_ok.2 ⟨rfl, wellFormed⟩
  simp [eliminate, Elimination.eliminateMachine, accepted, refused, bind, Except.bind]

theorem eliminate_of_fits (wellFormed : program.WellFormed) (fits : machine.Fits program.tapes) :
    Launch.eliminate ⟨program, machine.toDraft, fuel⟩ =
      .ok ⟨Elimination.singleForm program, (Elimination.encoded program machine).toDraft,
        Elimination.encodedFuel fuel⟩ := by
  simp [eliminate, Elimination.eliminateMachine_eq wellFormed fits,
    Elimination.eliminate_eq wellFormed, bind, Except.bind, pure, Except.pure]

end Launch

theorem unlines_cons (line : String) (rest : List String) :
    unlines (line :: rest) = line ++ ("\n" ++ unlines rest) := by
  simp [unlines, String.append_assoc]

/-- What there is to tell about a run of a program or of its single-state form. -/
structure Account where
  steps : Nat
  halted : Bool
  /-- Where the run has ended. -/
  machine : Machine
  /-- What has ended the run, unless it has halted. -/
  problem : Option String
  /-- The counters and the state of the source program, if its single-state form was run. -/
  source : Option (List Int × Option Int)

namespace Account

def sourceLines (account : Account) : List String :=
  match account.source with
  | none => []
  | some (counters, state) =>
      ["Original tapes: " ++ listText counters, "Emulated state: " ++ optionText state]

/-- The account as it is laid out on the page. A problem is shown in place of the source program. -/
def onPage (account : Account) : String :=
  String.intercalate "\n"
    (["EXECUTION SUMMARY", ruler 40 '=', "Steps: " ++ text account.steps,
      "Halted: " ++ (if account.halted then "Yes" else "No"),
      "State: " ++ text account.machine.state, "Tapes: " ++ listText account.machine.counters] ++
    match account.problem with
    | none => account.sourceLines
    | some message => ["\nRuntime: " ++ message])

/-- The account as the command prints it. A problem is named before the figures. -/
def printed (account : Account) : String :=
  unlines
    ([ruler 60 '-', "Executing...", ruler 60 '-'] ++
    (match account.problem with
      | none => []
      | some message => ["Execution error: " ++ message]) ++
    ["", "Steps: " ++ text account.steps, "Halted: " ++ truthText account.halted,
      "State: " ++ text account.machine.state, "Tapes: " ++ listText account.machine.counters] ++
    account.sourceLines)

end Account

/-- How a run has ended, the exit code for it, and what there is to tell if it has not halted. -/
inductive Ends : Except RunError Unit → Nat → Option String → Prop where
  | halted : Ends (.ok ()) 0 none
  | outOfFuel (fuel : Int) (steps : Nat) :
      Ends (.error (.outOfFuel fuel steps)) 2 (some (RunError.outOfFuel fuel steps).message)
  | overflow (tape : Nat) (value : Int) :
      Ends (.error (.fault (.overflow tape value))) 3
        (some (RunError.fault (.overflow tape value)).message)

/-- What a machine tells about a source program, if it runs the single-state form of it. -/
inductive Decodes (program : Program) : Bool → Machine → Option (List Int × Option Int) → Prop where
  | plain {machine : Machine} : Decodes program false machine none
  | single {machine : Machine} {state : Option Int}
      (read : Elimination.emulatedState machine program = .ok state) :
      Decodes program true machine (some (machine.counters.take program.tapes.toNat, state))

/-- The account of what a launch comes to, and the exit code. -/
inductive Tells (launch : Launch) (program : Program) (eliminated : Bool) :
    Account → Nat → Prop where
  | intro {loaded final : Session} {answer : Except RunError Unit} {machine : Machine} {code : Nat}
      {problem : Option String} {source : Option (List Int × Option Int)}
      (opened : launch.session false = .ok loaded) (ran : loaded.run = (answer, final))
      (current : final.machine = some machine) (ends : Ends answer code problem)
      (decodes : Decodes program eliminated machine source) :
      Tells launch program eliminated ⟨final.steps, final.halted, machine, problem, source⟩ code

theorem Session.Sound.exists_ends {session : Session} (sound : session.Sound) :
    ∃ code problem, Ends session.run.1 code problem := by
  cases answered : session.run.1 with
  | ok done => exact ⟨0, none, .halted⟩
  | error error =>
      cases sound.run_foreseen answered with
      | outOfFuel fuel steps => exact ⟨2, _, .outOfFuel fuel steps⟩
      | overflow tape value => exact ⟨3, _, .overflow tape value⟩

section Layout

variable {program : Program} {eliminated : Bool} {loaded final : Session}
  {answer : Except RunError Unit} {machine : Machine} {code : Nat} {problem : Option String}
  {source : Option (List Int × Option Int)}

theorem sourceLines_eq (decodes : Decodes program true machine source)
    (current : final.machine = some machine) :
    Elimination.sourceLines program final =
      .ok (Account.sourceLines ⟨final.steps, final.halted, machine, problem, source⟩) := by
  cases decodes with
  | single read =>
      simp [Elimination.sourceLines, current, read, Account.sourceLines, bind, Except.bind, pure,
        Except.pure]

/-- The page lays out the account of the run. -/
theorem present_eq (encoded : String) (ran : loaded.run = (answer, final))
    (current : final.machine = some machine) (ends : Ends answer code problem)
    (decodes : Decodes program eliminated machine source) :
    Playground.present program eliminated encoded loaded = .ok {
      summary := Account.onPage ⟨final.steps, final.halted, machine, problem, source⟩
      trace := Playground.traceText final.trace
      encoded } := by
  have standing : Playground.standingLines final = ["EXECUTION SUMMARY", ruler 40 '=',
      "Steps: " ++ text final.steps, "Halted: " ++ (if final.halted then "Yes" else "No"),
      "State: " ++ text machine.state, "Tapes: " ++ listText machine.counters] := by
    simp [Playground.standingLines, Session.summary, current, optionText]
  simp only [Playground.present, ran, Account.onPage, ← standing]
  cases ends with
  | halted =>
      cases decodes with
      | plain => rfl
      | single read =>
          simp only [↓reduceIte]
          rw [@sourceLines_eq _ _ _ none _ (.single read) current]
          rfl
  | outOfFuel fuel steps | overflow tape value => rfl

/-- The command prints the account of the run. -/
theorem closingReport_eq (name tapes : String) (state fuel : Int)
    (current : final.machine = some machine)
    (decodes : Decodes program eliminated machine source) :
    CommandLine.closingReport (CommandLine.runOptions name tapes state fuel eliminated) program
        final =
      .ok (unlines (["", "Steps: " ++ text final.steps, "Halted: " ++ truthText final.halted,
        "State: " ++ text machine.state, "Tapes: " ++ listText machine.counters] ++
        Account.sourceLines ⟨final.steps, final.halted, machine, problem, source⟩)) := by
  have figures : optionText (final.machine.map Machine.state) = text machine.state ∧
      (final.machine.map Machine.counters).getD [] = machine.counters := by
    simp [current, optionText]
  cases decodes with
  | plain =>
      simp [CommandLine.closingReport, CommandLine.runOptions, CommandLine.Options.isQuiet,
        Session.summary, figures, Account.sourceLines, bind, Except.bind, pure, Except.pure]
  | single read =>
      have source := @sourceLines_eq _ _ _ problem _ (.single read) current
      simp [CommandLine.closingReport, CommandLine.runOptions, CommandLine.Options.isQuiet,
        Session.summary, figures, source, bind, Except.bind, pure, Except.pure]

theorem runSession_eq (name tapes : String) (state fuel : Int) (before : String)
    (ran : loaded.run = (answer, final)) (current : final.machine = some machine)
    (ends : Ends answer code problem) (decodes : Decodes program eliminated machine source) :
    CommandLine.runSession (CommandLine.runOptions name tapes state fuel eliminated) program loaded
        before =
      ⟨before ++ Account.printed ⟨final.steps, final.halted, machine, problem, source⟩,
        .exit code⟩ := by
  have report := @closingReport_eq _ _ _ _ problem _ name tapes state fuel current decodes
  have loud : ∀ line, CommandLine.Options.note
      (CommandLine.runOptions name tapes state fuel eliminated) line = line ++ "\n" :=
    fun _ => rfl
  simp only [CommandLine.runSession, ran, loud]
  cases ends with
  | halted =>
      simp only [report, Account.printed, List.cons_append, List.nil_append, unlines_cons,
        String.append_assoc]
  | outOfFuel fuel steps | overflow tape value =>
      simp only [CommandLine.exitCode?, report, Account.printed, List.cons_append, List.nil_append,
        unlines_cons, String.append_assoc]

end Layout

/-- What is launched for a run: the run itself or its single-state form, and what the command prints
about it. -/
inductive Prepares (launch : Launch) : Bool → Launch → String → Prop where
  | plain : Prepares launch false launch ""
  | single {single : Launch} (formed : launch.eliminate = .ok single) :
      Prepares launch true single
        ("Transpiled to " ++ text single.program.tapes ++ " tapes, " ++
          text single.program.rules.length ++ " rules" ++ "\n")

/-- Whatever a session on the single-state form has done, its machine can be decoded. -/
theorem exists_decodes {program : Program} {machine current : Machine} {session loaded : Session}
    (wellFormed : program.WellFormed) (fits : machine.Fits program.tapes)
    (opened : session.program = Elimination.singleForm program)
    (load : session.load (Elimination.encoded program machine).toDraft = .ok loaded)
    (ended : loaded.run.2.machine = some current) :
    ∃ source, Decodes program true current source := by
  have singleWellFormed := Elimination.wellFormed_singleForm wellFormed
  have same : loaded.run.2.program = Elimination.singleForm program := by
    rcases Session.load_eq_ok.1 load with ⟨-, -, -, rfl⟩
    exact (Session.perform_keeps _ .run).1.trans opened
  have follows := Session.follows_of_load (opened ▸ singleWellFormed) load
  rcases Session.run_preserves
      (fun other => ∃ positions reached,
        other.Follows (Elimination.encoded program machine) positions reached)
      (fun _ holds => holds.elim fun _ holds => holds.elim fun _ holds => holds.step)
      loaded ⟨[], _, follows⟩ with ⟨positions, reached, ends⟩
  have here : reached = current := Option.some.inj (ends.current.symm.trans ended)
  subst here
  have fired := ends.reached
  rw [same] at fired
  by_cases mentioned : machine.state ∈ program.states
  · rcases Elimination.decoded_of_firings wellFormed fits fired mentioned with
      ⟨-, indices, source, -, decoded⟩
    exact ⟨_, .single decoded⟩
  · exact ⟨_, .single (Elimination.idle_of_firings wellFormed fits fired mentioned).2.2⟩

/-- A machine that fits can be launched, with and without a record. -/
theorem exists_prepared {program : Program} {machine : Machine} {fuel : Int} (eliminated : Bool)
    (wellFormed : program.WellFormed) (fits : machine.Fits program.tapes) (nonneg : 0 ≤ fuel) :
    ∃ prepared notes loaded,
      Prepares ⟨program, machine.toDraft, fuel⟩ eliminated prepared notes ∧
      prepared.session true = .ok loaded ∧ prepared.session false = .ok loaded.unrecorded ∧
      loaded.Sound ∧
      ∀ current, loaded.run.2.machine = some current →
        ∃ source, Decodes program eliminated current source := by
  cases eliminated with
  | false =>
      refine ⟨_, _, _, .plain, Launch.session_of_fits wellFormed nonneg fits,
        Launch.session_of_fits wellFormed nonneg fits, ⟨wellFormed, machine, rfl, fits⟩, ?_⟩
      intro current ended
      exact ⟨none, .plain⟩
  | true =>
      have single := Elimination.wellFormed_singleForm wellFormed
      have first := Elimination.fits_encoded fits
      have enough : 0 ≤ Elimination.encodedFuel fuel := by
        unfold Elimination.encodedFuel
        omega
      refine ⟨_, _, _, .single (Launch.eliminate_of_fits wellFormed fits),
        Launch.session_of_fits single enough first, Launch.session_of_fits single enough first,
        ⟨single, _, rfl, first⟩, ?_⟩
      intro current ended
      have load := @Session.load_toDraft
        { program := Elimination.singleForm program, fuel := Elimination.encodedFuel fuel
          recording := true } _ first
      exact exists_decodes wellFormed fits rfl load ended

end CounterMachine
