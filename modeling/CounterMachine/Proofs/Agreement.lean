import CounterMachine.Proofs.Reporting

/-!
# The page and the command agree

Given the same listing, tapes, state and fuel, the page shows an error exactly if the command turns
the run down with the same message, and otherwise both lay out the same account. The stages of both
are followed up to the point where a session is run; from there on the account is all that matters.

The command takes the tapes as an option, and an option whose value is two dashes counts as left
without one. The page knows no such mark.
-/

namespace CounterMachine

namespace Playground

variable {source tapes : String} {state fuel : Int} {eliminated : Bool} {program : Program}
  {counters : List Int}

theorem run_of_unreadable {error : Text.Numeral.Error}
    (accepted : Listing.parseText source = .ok program)
    (unread : Text.Numeral.readList tapes.toList = .error error) :
    run ⟨source, tapes, .scalar (.integer state), .scalar (.integer fuel), eliminated⟩ =
      .ok (Page.ofError error.message) := by
  have present : source.toList.all Text.isBlank = false := Listing.not_blank accepted
  simp [run, Form.read, present, accepted, Field.toInt, unread, FormError.page, FormError.message,
    Except.mapError, bind, Except.bind]

theorem run_of_readable (accepted : Listing.parseText source = .ok program)
    (read : Text.Numeral.readList tapes.toList = .ok counters) :
    run ⟨source, tapes, .scalar (.integer state), .scalar (.integer fuel), eliminated⟩ =
      if eliminated then eliminatedPage ⟨program, Machine.toDraft ⟨state, counters⟩, fuel⟩
      else launchPage program false "" ⟨program, Machine.toDraft ⟨state, counters⟩, fuel⟩ := by
  have present : source.toList.all Text.isBlank = false := Listing.not_blank accepted
  simp [run, Form.read, present, accepted, Field.toInt, read, Except.mapError, bind, Except.bind,
    pure, Except.pure]

theorem run_of_refused {defect : Defect} (accepted : Listing.parseText source = .ok program)
    (read : Text.Numeral.readList tapes.toList = .ok counters) (wellFormed : program.WellFormed)
    (nonneg : 0 ≤ fuel)
    (refused : (Machine.toDraft ⟨state, counters⟩).accept program.tapes =
      .error (.defective defect)) :
    run ⟨source, tapes, .scalar (.integer state), .scalar (.integer fuel), eliminated⟩ =
      .ok (Page.ofError defect.message) := by
  rw [run_of_readable accepted read]
  cases eliminated with
  | false => simp [launchPage, Launch.session_of_refused wellFormed nonneg refused]
  | true => simp [eliminatedPage, Launch.eliminate_of_refused wellFormed refused]

theorem run_of_prepared {prepared : Launch} {notes : String} {loaded : Session}
    (accepted : Listing.parseText source = .ok program)
    (read : Text.Numeral.readList tapes.toList = .ok counters)
    (prepares : Prepares ⟨program, Machine.toDraft ⟨state, counters⟩, fuel⟩ eliminated prepared
      notes)
    (opened : prepared.session true = .ok loaded) :
    ∃ encoded, run ⟨source, tapes, .scalar (.integer state), .scalar (.integer fuel), eliminated⟩ =
      present program eliminated encoded loaded := by
  rw [run_of_readable accepted read]
  cases prepares with
  | plain => exact ⟨"", by simp [launchPage, opened]⟩
  | single formed =>
      exact ⟨Listing.formatText prepared.program,
        by simp [eliminatedPage, formed, launchPage, opened]⟩

end Playground

namespace CommandLine

variable {name tapes : String} {state fuel : Int} {eliminated : Bool} {program : Program}
  {counters : List Int} {room : Int} {files : String → Listing.StoredFile}

def loadingLine (name : String) : String :=
  "Loading program: " ++ name ++ "\n"

/-- What the stages end in is the result, whether they all succeed or one of them ends the command
early. -/
theorem execute_eq {result : Result} (nonneg : 0 ≤ fuel)
    (ended : stages room files (runOptions name tapes state fuel eliminated) fuel = .ok result ∨
      stages room files (runOptions name tapes state fuel eliminated) fuel = .error result) :
    execute room files (runOptions name tapes state fuel eliminated) = result := by
  have checked : (runOptions name tapes state fuel eliminated).check = .ok fuel := by
    have notNegative : ¬ fuel < 0 := by omega
    simp [Options.check, runOptions, Options.sourceCount, notNegative]
  cases ended with
  | inl finished => simp only [execute, checked, finished]
  | inr stopped => simp only [execute, checked, stopped]

theorem loadProgram_eq (named : name ≠ "")
    (stored : Listing.readStored (files name) = .ok program) :
    loadProgram files (runOptions name tapes state fuel eliminated) =
      .ok (program, loadingLine name) := by
  have source : (runOptions name tapes state fuel eliminated).source = .file name := by
    simp [Options.source, runOptions, filledText?, named]
  rw [loadProgram, source]
  simp only [stored]
  rfl

/-- The stages after a program has been loaded. -/
theorem stages_eq (named : name ≠ "") (stored : Listing.readStored (files name) = .ok program) :
    stages room files (runOptions name tapes state fuel eliminated) fuel = do
      let machine ← buildMachine room (runOptions name tapes state fuel eliminated) program
        (loadingLine name)
      let (launch, printed) ← prepare (runOptions name tapes state fuel eliminated)
        ⟨program, machine, fuel⟩ (loadingLine name)
      let session ← openSession (runOptions name tapes state fuel eliminated) launch printed
      return runSession (runOptions name tapes state fuel eliminated) program session printed := by
  rw [stages, loadProgram_eq named stored]
  rfl

theorem buildMachine_of_unreadable {error : Text.Numeral.Error} (filled : tapes ≠ "")
    (unread : Text.Numeral.readList tapes.toList = .error error) (printed : String) :
    buildMachine room (runOptions name tapes state fuel eliminated) program printed =
      .error (.stop printed ("Invalid tapes: " ++ error.message) 1) := by
  have counters : buildCounters room (runOptions name tapes state fuel eliminated) program printed =
      .error (invalidTapes printed (.numeral error)) := by
    simp [buildCounters, runOptions, filledText?, filled, readCounters, unread, Except.mapError]
  simp only [buildMachine, counters, bind, Except.bind]
  rfl

theorem buildMachine_of_readable (filled : tapes ≠ "")
    (read : Text.Numeral.readList tapes.toList = .ok counters) (printed : String) :
    buildMachine room (runOptions name tapes state fuel eliminated) program printed =
      .ok (Machine.toDraft ⟨state, counters⟩) := by
  simp [buildMachine, runOptions, buildCounters, filledText?, filled, readCounters, read,
    Except.mapError, Options.initialState, Machine.toDraft, bind, Except.bind, pure, Except.pure]

section Stages

variable (named : name ≠ "") (filled : tapes ≠ "") (nonneg : 0 ≤ fuel)
  (stored : Listing.readStored (files name) = .ok program)
include named filled nonneg stored

theorem execute_of_unreadable {error : Text.Numeral.Error}
    (unread : Text.Numeral.readList tapes.toList = .error error) :
    execute room files (runOptions name tapes state fuel eliminated) =
      .stop (loadingLine name) ("Invalid tapes: " ++ error.message) 1 := by
  apply execute_eq nonneg
  right
  rw [stages_eq named stored, buildMachine_of_unreadable filled unread]
  simp only [bind, Except.bind]

theorem execute_of_refused {defect : Defect}
    (read : Text.Numeral.readList tapes.toList = .ok counters) (wellFormed : program.WellFormed)
    (refused : (Machine.toDraft ⟨state, counters⟩).accept program.tapes =
      .error (.defective defect)) :
    execute room files (runOptions name tapes state fuel eliminated) =
      .stop (loadingLine name) ("Machine error: " ++ defect.message) 1 := by
  have turnedDown : unfit (loadingLine name) (.defective defect) =
      .stop (loadingLine name) ("Machine error: " ++ defect.message) 1 := rfl
  apply execute_eq nonneg
  right
  rw [stages_eq named stored, buildMachine_of_readable filled read, ← turnedDown]
  cases eliminated with
  | false =>
      have failed : openSession (runOptions name tapes state fuel false)
          ⟨program, Machine.toDraft ⟨state, counters⟩, fuel⟩ (loadingLine name) =
          .error (unfit (loadingLine name) (.defective defect)) := by
        simp [openSession, runOptions, Launch.session_of_refused wellFormed nonneg refused]
      have plain : prepare (runOptions name tapes state fuel false)
          ⟨program, Machine.toDraft ⟨state, counters⟩, fuel⟩ (loadingLine name) =
          .ok (⟨program, Machine.toDraft ⟨state, counters⟩, fuel⟩, loadingLine name) := rfl
      simp only [plain, failed, bind, Except.bind]
  | true =>
      have failed : prepare (runOptions name tapes state fuel true)
          ⟨program, Machine.toDraft ⟨state, counters⟩, fuel⟩ (loadingLine name) =
          .error (unfit (loadingLine name) (.defective defect)) := by
        simp [prepare, runOptions, Launch.eliminate_of_refused wellFormed refused]
      simp only [failed, bind, Except.bind]

theorem execute_of_prepared {prepared : Launch} {notes : String} {loaded : Session}
    (read : Text.Numeral.readList tapes.toList = .ok counters)
    (prepares : Prepares ⟨program, Machine.toDraft ⟨state, counters⟩, fuel⟩ eliminated prepared
      notes)
    (opened : prepared.session false = .ok loaded) :
    execute room files (runOptions name tapes state fuel eliminated) =
      runSession (runOptions name tapes state fuel eliminated) program loaded
        (loadingLine name ++ notes) := by
  have running : openSession (runOptions name tapes state fuel eliminated) prepared
      (loadingLine name ++ notes) = .ok loaded := by
    simp [openSession, runOptions, opened]
  have announced : prepare (runOptions name tapes state fuel eliminated)
      ⟨program, Machine.toDraft ⟨state, counters⟩, fuel⟩ (loadingLine name) =
      .ok (prepared, loadingLine name ++ notes) := by
    cases prepares with
    | plain => simp [prepare, runOptions]
    | single formed => simp [prepare, runOptions, formed, Options.note, Options.isQuiet]
  apply execute_eq nonneg
  left
  rw [stages_eq named stored, buildMachine_of_readable filled read]
  simp only [announced, running, bind, Except.bind, pure, Except.pure]

end Stages

end CommandLine

/-! ## Side by side -/

/-- The command turns the run down with a message, before anything is executed. -/
def Refuses (result : CommandLine.Result) (name message : String) : Prop :=
  result = .stop (CommandLine.loadingLine name) ("Invalid tapes: " ++ message) 1 ∨
    result = .stop (CommandLine.loadingLine name) ("Machine error: " ++ message) 1

theorem CommandLine.stop_inj {printed message other : String} {code : Nat} :
    Result.stop printed message code = .stop printed other code ↔ message = other := by
  simp [Result.stop]

/-- The command turns a run down with one message only. -/
theorem Refuses.unique {result : CommandLine.Result} {name message other : String}
    (refuses : Refuses result name message) : Refuses result name other ↔ message = other := by
  have apart : ∀ left right : String, "Invalid tapes: " ++ left ≠ "Machine error: " ++ right := by
    intro left right same
    have characters := congrArg String.toList same
    simp at characters
  cases refuses with
  | inl tapes =>
      rw [Refuses, tapes, CommandLine.stop_inj, CommandLine.stop_inj, String.append_right_inj]
      simp [apart]
  | inr machine =>
      rw [Refuses, machine, CommandLine.stop_inj, CommandLine.stop_inj, String.append_right_inj]
      simp [(apart _ _).symm]

/-- The page and the command report on one run, that of a launch or of its single-state form. -/
inductive ReportsSame (launch : Launch) (eliminated : Bool) (name : String)
    (page : Playground.Page) : CommandLine.Result → Prop where
  | intro {prepared : Launch} {notes : String} {account : Account} {code : Nat}
      (prepares : Prepares launch eliminated prepared notes)
      (tells : Tells prepared launch.program eliminated account code)
      (summary : page.summary = account.onPage) :
      ReportsSame launch eliminated name page
        ⟨CommandLine.loadingLine name ++ notes ++ account.printed, .exit code⟩

namespace ReportsSame

variable {launch : Launch} {eliminated : Bool} {name : String} {page : Playground.Page}
  {result : CommandLine.Result}

/-- A run that is reported on does not end with the exit code of one that is turned down. -/
theorem not_refuses (reports : ReportsSame launch eliminated name page result) (message : String) :
    ¬ Refuses result name message := by
  cases reports with
  | @intro prepared notes account code prepares tells summary =>
      have different : code ≠ 1 := by
        cases tells with
        | intro opened ran current ends decodes => cases ends <;> decide
      simp [Refuses, CommandLine.Result.stop, different]

theorem summary_ne_error (reports : ReportsSame launch eliminated name page result)
    (message : String) : page.summary ≠ "Error: " ++ message := by
  cases reports with
  | intro prepares tells summary =>
      intro same
      rw [summary] at same
      have characters := congrArg String.toList same
      simp [Account.onPage, String.toList_intercalate] at characters

end ReportsSame

section Agreement

variable {source tapes name : String} {state fuel : Int} {eliminated : Bool} {program : Program}
  {counters : List Int} {room : Int} {files : String → Listing.StoredFile}
  (accepted : Listing.parseText source = .ok program) (filled : tapes ≠ "") (nonneg : 0 ≤ fuel)
  (named : name ≠ "") (stored : Listing.readStored (files name) = .ok program)
include accepted filled nonneg named stored

theorem reportsSame_of_fits (read : Text.Numeral.readList tapes.toList = .ok counters)
    (fits : Machine.Fits program.tapes ⟨state, counters⟩) :
    ∃ page, Playground.run
        ⟨source, tapes, .scalar (.integer state), .scalar (.integer fuel), eliminated⟩ = .ok page ∧
      ReportsSame ⟨program, Machine.toDraft ⟨state, counters⟩, fuel⟩ eliminated name page
        (CommandLine.execute room files
          (CommandLine.runOptions name tapes state fuel eliminated)) := by
  have wellFormed := (Listing.parse_eq_ok_iff.1 accepted).wellFormed
  rcases exists_prepared eliminated wellFormed fits nonneg with
    ⟨prepared, notes, loaded, prepares, recorded, plain, sound, decodable⟩
  have ended : loaded.run.2.Sound :=
    Session.run_preserves Session.Sound (fun _ holds => holds.step) loaded sound
  rcases ended.fits with ⟨machine, current, -⟩
  rcases sound.exists_ends with ⟨code, problem, ends⟩
  rcases decodable machine current with ⟨told, decodes⟩
  have unrecorded := Session.run_unrecorded loaded
  -- the record has no part in the account
  have account : Account.mk loaded.run.2.unrecorded.steps loaded.run.2.unrecorded.halted machine
      problem told = ⟨loaded.run.2.steps, loaded.run.2.halted, machine, problem, told⟩ := rfl
  have tells := Tells.intro plain unrecorded current ends decodes
  rw [account] at tells
  rcases Playground.run_of_prepared accepted read prepares recorded with ⟨encoded, shown⟩
  rw [present_eq encoded rfl current ends decodes] at shown
  rw [CommandLine.execute_of_prepared named filled nonneg stored read prepares plain,
    runSession_eq name tapes state fuel _ unrecorded current ends decodes, account]
  refine ⟨_, shown, .intro prepares tells ?_⟩
  dsimp only

/-- The page shows an error with which the command turns the run down, or both report on the same
run. -/
theorem refuses_or_reportsSame (stateShort : Text.Numeral.isShowable state = true) :
    ∃ page, Playground.run
        ⟨source, tapes, .scalar (.integer state), .scalar (.integer fuel), eliminated⟩ = .ok page ∧
      ((∃ message, page.summary = "Error: " ++ message ∧
        Refuses (CommandLine.execute room files
          (CommandLine.runOptions name tapes state fuel eliminated)) name message) ∨
      ∃ counters, Text.Numeral.readList tapes.toList = .ok counters ∧
        ReportsSame ⟨program, Machine.toDraft ⟨state, counters⟩, fuel⟩ eliminated name page
          (CommandLine.execute room files
            (CommandLine.runOptions name tapes state fuel eliminated))) := by
  cases read : Text.Numeral.readList tapes.toList with
  | error error =>
      refine ⟨_, Playground.run_of_unreadable accepted read, .inl ⟨error.message, rfl, .inl ?_⟩⟩
      exact CommandLine.execute_of_unreadable named filled nonneg stored read
  | ok counters =>
      cases valid : (Machine.toDraft ⟨state, counters⟩).accept program.tapes with
      | error refusal =>
          have lists := Listing.parse_eq_ok_iff.1 accepted
          have wellFormed := lists.wellFormed
          have tapesShort := lists.isShowable _ (Program.mem_numbers_toDraft.2 (.inl rfl))
          have short : ∀ number ∈ (Machine.toDraft ⟨state, counters⟩).numbers,
              Text.Numeral.isShowable number = true := by
            intro number member
            rcases Machine.mem_numbers_toDraft.1 member with rfl | inside
            · exact stateShort
            · exact Listing.isShowable_of_readList read number inside
          obtain ⟨defect, rfl⟩ := DraftMachine.exists_defect_of_refused tapesShort short valid
          refine ⟨_, Playground.run_of_refused accepted read wellFormed nonneg valid,
            .inl ⟨defect.message, rfl, .inr ?_⟩⟩
          exact CommandLine.execute_of_refused named filled nonneg stored read wellFormed valid
      | ok machine =>
          rcases DraftMachine.accept_eq_ok.1 valid with ⟨same, fits⟩
          rw [← Machine.toMachine_toDraft machine, ← same, Machine.toMachine_toDraft] at fits
          rcases reportsSame_of_fits accepted filled nonneg named stored read fits with
            ⟨page, shown, reports⟩
          exact ⟨page, shown, .inr ⟨counters, rfl, reports⟩⟩

end Agreement

/-- The page and the command agree. For a listing that is accepted, tapes that are not empty, a
state and fuel, with the options in any order, the page shows an error exactly if the command turns
the run down with the same message. Otherwise both report on one run: the same figures, the same
reason if it has not halted, and the same counters and state of the source program if its
single-state form was run. The exit code tells a halt, spent fuel and an overflow apart. -/
theorem reports_agree (source : String) (program : Program)
    (accepted : Listing.parseText source = .ok program) (tapes : String) (filled : tapes ≠ "")
    (tapesGiven : tapes ≠ "--") (state fuel : Int) (nonneg : 0 ≤ fuel)
    (stateShort : Text.Numeral.isShowable state = true)
    (fuelShort : Text.Numeral.isShowable fuel = true) (eliminated : Bool) (name : String)
    (named : name ≠ "") (nameGiven : name ≠ "--") (room : Int)
    (files : String → Listing.StoredFile) (bytes : ByteArray)
    (stored : files name = .contents bytes) (raw : String)
    (decoded : Text.Utf8.decode bytes = .ok raw)
    (normalized : Text.normalizeLineEnds raw.toList = source.toList) (arguments : List String)
    (permuted : arguments.Perm (CommandLine.runArguments name tapes state fuel eliminated)) :
    ∃ page, Playground.run
        ⟨source, tapes, .scalar (.integer state), .scalar (.integer fuel), eliminated⟩ = .ok page ∧
      (∀ message, page.summary = "Error: " ++ message ↔
        Refuses (CommandLine.run room files arguments) name message) ∧
      ((∀ message, page.summary ≠ "Error: " ++ message) →
        ∃ counters, Text.Numeral.readList tapes.toList = .ok counters ∧
          ReportsSame ⟨program, Machine.toDraft ⟨state, counters⟩, fuel⟩ eliminated name page
            (CommandLine.run room files arguments)) := by
  have read : Listing.readStored (files name) = .ok program := by
    rw [stored, Listing.readStored, Listing.readBytes, decoded]
    simp only [normalized]
    rw [mapError_eq_ok_iff]
    exact accepted
  have options := CommandLine.parseArguments_runArguments nameGiven tapesGiven stateShort fuelShort
    permuted
  have executed : CommandLine.run room files arguments =
      CommandLine.execute room files (CommandLine.runOptions name tapes state fuel eliminated) := by
    rw [CommandLine.run, options]
  rcases @refuses_or_reportsSame source tapes name state fuel eliminated program room files
      accepted filled nonneg named read stateShort with ⟨page, shown, outcome⟩
  refine ⟨page, shown, ?_⟩
  rw [executed]
  cases outcome with
  | inl refused =>
      rcases refused with ⟨first, error, refuses⟩
      constructor
      · intro message
        rw [error, String.append_right_inj, refuses.unique]
      · intro noError
        exact absurd error (noError first)
  | inr reported =>
      rcases reported with ⟨counters, readable, reports⟩
      constructor
      · intro message
        exact iff_of_false (reports.summary_ne_error message) (reports.not_refuses message)
      · intro noError
        exact ⟨counters, readable, reports⟩

/-- A countdown in single-state form, from a file with DOS line ends and with the options in another
order. -/
theorem reports_agree_countdown :
    ∃ page, Playground.run
        ⟨"tapes: 1\n0 [-1] 0\n", "2", .scalar (.integer 0), .scalar (.integer 10), true⟩ =
          .ok page ∧
      ReportsSame ⟨⟨1, [⟨0, 0, [-1]⟩]⟩, Machine.toDraft ⟨0, [2]⟩, 10⟩ true "a.m3" page
        (CommandLine.run 9 (fun _ => .contents "tapes: 1\r\n0 [-1] 0\r\n".toUTF8)
          ["--transpile", "--fuel=10", "--program=a.m3", "--state=0", "--tapes=2"]) ∧
      (CommandLine.run 9 (fun _ => .contents "tapes: 1\r\n0 [-1] 0\r\n".toUTF8)
        ["--transpile", "--fuel=10", "--program=a.m3", "--state=0", "--tapes=2"]).conclusion =
        .exit 0 := by
  rcases reports_agree "tapes: 1\n0 [-1] 0\n" ⟨1, [⟨0, 0, [-1]⟩]⟩ (by decide +kernel) "2"
      (by decide) (by decide) 0 10 (by decide) (by decide) (by decide) true "a.m3" (by decide)
      (by decide) 9 (fun _ => .contents "tapes: 1\r\n0 [-1] 0\r\n".toUTF8)
      "tapes: 1\r\n0 [-1] 0\r\n".toUTF8 rfl "tapes: 1\r\n0 [-1] 0\r\n" (by decide +kernel)
      (by decide +kernel)
      ["--transpile", "--fuel=10", "--program=a.m3", "--state=0", "--tapes=2"]
      (by decide +kernel) with ⟨page, shown, -, told⟩
  have begins : (Playground.run ⟨"tapes: 1\n0 [-1] 0\n", "2", .scalar (.integer 0),
      .scalar (.integer 10), true⟩).map (fun page => page.summary.toList.take 2) =
      .ok ['E', 'X'] := by
    decide +kernel
  have noError : ∀ message, page.summary ≠ "Error: " ++ message := by
    intro message same
    rw [shown] at begins
    simp [Except.map, same] at begins
  rcases told noError with ⟨counters, readable, reports⟩
  have counted : Text.Numeral.readList "2".toList = .ok [2] := by decide +kernel
  rw [counted] at readable
  cases readable
  exact ⟨page, shown, reports, by decide +kernel⟩

/-- Two dashes as tapes are no number for the page, and no tapes at all for the command, which runs
on zeros. -/
theorem reports_differ_at_two_dashes :
    Listing.parseText "tapes: 1\n" = .ok ⟨1, []⟩ ∧
    ∃ page message, Playground.run
        ⟨"tapes: 1\n", "--", .scalar (.integer 0), .scalar (.integer 10), false⟩ = .ok page ∧
      page.summary = "Error: " ++ message ∧
      CommandLine.run 9 (fun _ => .contents "tapes: 1\n".toUTF8)
          ["--program=a.m3", "--tapes=--", "--state=0", "--fuel=10"] =
        ⟨CommandLine.loadingLine "a.m3" ++ Account.printed ⟨0, true, ⟨0, [0]⟩, none, none⟩,
          .exit 0⟩ ∧
      ¬ Refuses (CommandLine.run 9 (fun _ => .contents "tapes: 1\n".toUTF8)
          ["--program=a.m3", "--tapes=--", "--state=0", "--fuel=10"]) "a.m3" message := by
  have result : CommandLine.run 9 (fun _ => .contents "tapes: 1\n".toUTF8)
      ["--program=a.m3", "--tapes=--", "--state=0", "--fuel=10"] =
      ⟨CommandLine.loadingLine "a.m3" ++ Account.printed ⟨0, true, ⟨0, [0]⟩, none, none⟩,
        .exit 0⟩ := by
    decide +kernel
  have accepted : Listing.parseText "tapes: 1\n" = .ok ⟨1, []⟩ := by decide +kernel
  have unread : Text.Numeral.readList "--".toList = .error (.malformed "--".toList) := by
    decide +kernel
  refine ⟨accepted, _, (Text.Numeral.Error.malformed "--".toList).message,
    Playground.run_of_unreadable accepted unread, rfl, result, ?_⟩
  rw [result]
  simp [Refuses, CommandLine.Result.stop]

end CounterMachine
