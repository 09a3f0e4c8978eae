import CounterMachine.CommandLine.Command
import CounterMachine.Proofs.FirstFault

/-!
# The listing on the command line

A listing that is given on the command line is cut into lines at its double semicolons and read. If
it cannot be read the command ends with the reason; otherwise it goes on with the program that the
listing describes, as it would with the same program from a file. What the command does from there
on depends on how it came by the program only in the line that says so.

Whether exactly one source is named and which source is used are two different questions to the
options. An empty listing is named and not used, and neither is one that is left blank. The command
then turns to the catalog and finds nothing there.
-/

namespace CounterMachine.CommandLine

/-- A result before which something else has been printed. -/
def Result.after (printed : String) (result : Result) : Result :=
  { result with output := printed ++ result.output }

section Printed

variable (room : Int) (options : Options) (program : Program) (launch : Launch)
  (printed more : String)

@[simp] theorem Result.after_mk (output : String) (conclusion : Conclusion) :
    Result.after printed ⟨output, conclusion⟩ = ⟨printed ++ output, conclusion⟩ := rfl

@[simp] theorem Result.after_stop (message : String) (code : Nat) :
    (stop more message code).after printed = stop (printed ++ more) message code := by
  simp [stop, String.append_assoc]

@[simp] theorem Result.after_empty (result : Result) : result.after "" = result := by
  simp [after]

theorem buildFromInputs_after (key : String) (inputs : Given String) :
    buildFromInputs key inputs printed =
      (buildFromInputs key inputs "").mapError (.after printed) := by
  cases inputs with
  | blank => simp [buildFromInputs, Except.mapError]
  | value given =>
      simp only [buildFromInputs]
      split
      next => simp [invalidTapes, Except.mapError]
      next => split <;> simp [Except.mapError]

theorem buildCounters_after :
    buildCounters room options program printed =
      (buildCounters room options program "").mapError (.after printed) := by
  unfold buildCounters
  split
  next tapes filled =>
    cases readCounters tapes with
    | error error => simp [invalidTapes, Except.mapError]
    | ok counters => rfl
  next => split <;> simp [Except.mapError]

theorem buildMachine_after :
    buildMachine room options program printed =
      (buildMachine room options program "").mapError (.after printed) := by
  unfold buildMachine
  split
  next key named => exact buildFromInputs_after printed key options.inputs
  all_goals
    rw [buildCounters_after, mapError_bind]
    rfl

theorem unfit_after (refusal : Refusal) :
    unfit (printed ++ more) refusal = (unfit more refusal).after printed := by
  cases refusal <;> simp [unfit]

theorem prepare_after :
    prepare options launch (printed ++ more) =
      ((prepare options launch more).mapError (.after printed)).map
        fun (prepared, told) => (prepared, printed ++ told) := by
  unfold prepare
  split
  next =>
    split
    next => simp [unfit_after, Except.mapError, Except.map]
    next => simp [Except.mapError, Except.map]
    next => simp [Except.mapError, Except.map, String.append_assoc]
  next => rfl

theorem openSession_after :
    openSession options launch (printed ++ more) =
      (openSession options launch more).mapError (.after printed) := by
  unfold openSession
  split
  next => rfl
  next => simp [unfit_after, Except.mapError]
  next => simp [Except.mapError]

theorem runSession_after (session : Session) :
    runSession options program session (printed ++ more) =
      (runSession options program session more).after printed := by
  simp only [runSession]
  split
  next => split <;> simp [String.append_assoc]
  next =>
    split
    next => split <;> simp [String.append_assoc]
    next => simp [String.append_assoc]

end Printed

/-- What stages end in, whether they all succeed or one of them ends the command early. -/
def outcome : Except Result Result → Result
  | .ok result | .error result => result

theorem outcome_bind {α : Type} {first : Except Result α} {next later : α → Except Result Result}
    {printed : String}
    (same : ∀ value, outcome (later value) = (outcome (next value)).after printed) :
    outcome (first.mapError (.after printed) >>= later) =
      (outcome (first >>= next)).after printed := by
  cases first with
  | error result => rfl
  | ok value => exact same value

/-- The stages after a program has been loaded, with what has been printed so far. -/
def laterStages (room : Int) (options : Options) (program : Program) (fuel : Int)
    (printed : String) : Except Result Result := do
  if options.emit then return emit program
  let machine ← buildMachine room options program printed
  let (launch, printed) ← prepare options ⟨program, machine, fuel⟩ printed
  let session ← openSession options launch printed
  return runSession options program session printed

/-- What the command does with a program, apart from saying where the program comes from. -/
def proceed (room : Int) (options : Options) (program : Program) (fuel : Int) : Result :=
  outcome (laterStages room options program fuel "")

section Proceed

variable {room : Int} {files : String → Listing.StoredFile} {options : Options}
  {program : Program} {fuel : Int} {result : Result}

theorem outcome_laterStages (runs : options.emit = false) (printed : String) :
    outcome (laterStages room options program fuel printed) =
      (proceed room options program fuel).after printed := by
  simp only [proceed, laterStages, runs, Bool.false_eq_true, if_false]
  rw [buildMachine_after]
  apply outcome_bind
  intro machine
  have prepared := prepare_after options ⟨program, machine, fuel⟩ printed ""
  rw [String.append_empty] at prepared
  rw [prepared]
  cases prepare options ⟨program, machine, fuel⟩ "" with
  | error result => rfl
  | ok ready =>
      simp only [Except.mapError, Except.map, bind, Except.bind]
      change outcome (openSession options ready.1 (printed ++ ready.2) >>= _) = _
      rw [openSession_after]
      apply outcome_bind
      intro session
      exact runSession_after options program printed ready.2 session

theorem execute_of_stopped (checked : options.check = .ok fuel)
    (stopped : loadProgram files options = .error result) :
    execute room files options = result := by
  simp only [execute, checked, stages, stopped]
  rfl

theorem stages_of_loaded {printed : String}
    (loaded : loadProgram files options = .ok (program, printed)) :
    stages room files options fuel = laterStages room options program fuel printed := by
  rw [stages, loaded]
  rfl

/-- Where the program comes from shows in one line only. -/
theorem execute_of_loaded {line : String} (checked : options.check = .ok fuel)
    (loaded : loadProgram files options = .ok (program, options.note line)) :
    execute room files options = (proceed room options program fuel).after (options.note line) := by
  have executeEq : execute room files options =
      outcome (laterStages room options program fuel (options.note line)) := by
    simp only [execute, checked, ← stages_of_loaded loaded]
    rfl
  rw [executeEq]
  cases emits : options.emit with
  | true =>
      have silent : options.note line = "" := by
        simp [Options.note, Options.isQuiet, emits]
      rw [silent, Result.after_empty, proceed]
  | false => exact outcome_laterStages emits _

end Proceed

/-- A command that has come to look for a program in the catalog and not found it. -/
def Result.FailsInCatalog (result : Result) : Prop :=
  ∃ error, result.conclusion = .failed (.catalog error)

section Catalog

variable {room : Int} {options : Options} {program : Program} {launch : Launch}
  {printed : String} {result : Result}

theorem not_failsInCatalog_of_bind {α : Type} {first : Except Result α}
    {next : α → Except Result Result}
    (stopped : ∀ result, first = .error result → ¬ result.FailsInCatalog)
    (continued : ∀ value, first = .ok value → ¬ (outcome (next value)).FailsInCatalog) :
    ¬ (outcome (first >>= next)).FailsInCatalog := by
  cases first with
  | error result => exact stopped result rfl
  | ok value => exact continued value rfl

theorem not_failsInCatalog_of_unfit (refusal : Refusal) :
    ¬ (unfit printed refusal).FailsInCatalog := by
  cases refusal <;> simp [unfit, Result.FailsInCatalog, Result.stop]

theorem not_failsInCatalog_of_buildMachine (noKey : options.builtIn = none)
    (stopped : buildMachine room options program printed = .error result) :
    ¬ result.FailsInCatalog := by
  simp only [buildMachine, noKey, bind_eq_error_iff, pure, Except.pure, reduceCtorEq, and_false,
    exists_false, or_false] at stopped
  unfold buildCounters at stopped
  split at stopped
  next =>
    obtain ⟨error, -, rfl⟩ := mapError_eq_error_iff.1 stopped
    simp [Result.FailsInCatalog, invalidTapes, Result.stop]
  next =>
    split at stopped
    next =>
      cases stopped
      simp [Result.FailsInCatalog]
    next => cases stopped

theorem not_failsInCatalog_of_prepare (stopped : prepare options launch printed = .error result) :
    ¬ result.FailsInCatalog := by
  unfold prepare at stopped
  split at stopped
  next =>
    split at stopped
    next =>
      cases stopped
      exact not_failsInCatalog_of_unfit _
    next =>
      cases stopped
      simp [Result.FailsInCatalog]
    next => cases stopped
  next => cases stopped

theorem not_failsInCatalog_of_openSession
    (stopped : openSession options launch printed = .error result) :
    ¬ result.FailsInCatalog := by
  unfold openSession at stopped
  split at stopped
  next => cases stopped
  next =>
    cases stopped
    exact not_failsInCatalog_of_unfit _
  next =>
    cases stopped
    simp [Result.FailsInCatalog]

theorem not_failsInCatalog_of_runSession (session : Session) :
    ¬ (runSession options program session printed).FailsInCatalog := by
  simp only [runSession]
  split
  next => split <;> simp [Result.FailsInCatalog]
  next =>
    split
    next => split <;> simp [Result.FailsInCatalog]
    next => simp [Result.FailsInCatalog]

theorem not_failsInCatalog_of_emit : ¬ (emit program).FailsInCatalog := by
  unfold emit
  split <;> simp [Result.FailsInCatalog]

/-- A command that has a program, and does not have it from the catalog, does not turn to the
catalog later on. -/
theorem proceed_not_failsInCatalog (noKey : options.builtIn = none) (fuel : Int) :
    ¬ (proceed room options program fuel).FailsInCatalog := by
  unfold proceed laterStages
  cases options.emit with
  | true => exact not_failsInCatalog_of_emit
  | false =>
      refine not_failsInCatalog_of_bind
        (fun _ stopped => not_failsInCatalog_of_buildMachine noKey stopped) ?_
      intro machine _
      refine not_failsInCatalog_of_bind
        (fun _ stopped => not_failsInCatalog_of_prepare stopped) ?_
      intro ready _
      refine not_failsInCatalog_of_bind
        (fun _ stopped => not_failsInCatalog_of_openSession stopped) ?_
      intro session _
      exact not_failsInCatalog_of_runSession session

end Catalog

/-! ## The listing -/

/-- A listing on the command line is the only source that the options name, and the fuel is a
budget. -/
structure Options.OnlyInline (options : Options) (given : Given String) (fuel : Int) : Prop where
  named : options.inlineProgram = some given
  alone : options.sourceCount = 1
  budget : options.fuel = .value fuel
  nonneg : 0 ≤ fuel

namespace Options.OnlyInline

variable {room : Int} {files : String → Listing.StoredFile} {options : Options}
  {given : Given String} {fuel : Int} {listing : String}

theorem others (only : options.OnlyInline given fuel) :
    options.program = none ∧ options.builtIn = none := by
  have alone := only.alone
  rw [sourceCount, only.named] at alone
  cases file : options.program with
  | none =>
      cases key : options.builtIn with
      | none => exact ⟨rfl, rfl⟩
      | some key => simp [file, key] at alone
  | some name => cases key : options.builtIn <;> simp [file, key] at alone

theorem check_eq (only : options.OnlyInline given fuel) : options.check = .ok fuel := by
  have notNegative : ¬ fuel < 0 := Int.not_lt.2 only.nonneg
  simp [check, only.alone, only.budget, notNegative]

/-- A listing that is not empty is the source. -/
theorem source_eq (only : options.OnlyInline (.value listing) fuel) (filled : listing ≠ "") :
    options.source = .inlineText listing := by
  simp [source, only.others, only.named, filledText?, filled]

/-- An empty or blank listing is passed over, and then there is no source. -/
theorem source_eq_of_empty (only : options.OnlyInline given fuel)
    (empty : given = .value "" ∨ given = .blank) : options.source = .builtIn none := by
  rcases empty with rfl | rfl
  · simp [source, only.others, only.named, filledText?]
  · simp [source, only.others, only.named, filledText?]

/-- A listing that cannot be read ends the command. -/
theorem execute_of_unread {error : Listing.ParseError}
    (only : options.OnlyInline (.value listing) fuel) (filled : listing ≠ "")
    (unread : Listing.parse (inlineLines listing.toList) = .error error) :
    execute room files options = unparsable error := by
  apply execute_of_stopped only.check_eq
  simp only [loadProgram, only.source_eq filled, unread]

/-- With a listing that can be read the command goes on. -/
theorem execute_of_read {program : Program} (only : options.OnlyInline (.value listing) fuel)
    (filled : listing ≠ "")
    (read : Listing.parse (inlineLines listing.toList) = .ok program) :
    execute room files options =
      (proceed room options program fuel).after (options.note "Running inline program") := by
  apply execute_of_loaded only.check_eq
  simp only [loadProgram, only.source_eq filled, read]

/-- The command with a file in place of the listing. -/
theorem execute_of_stored {program : Program} {name : String}
    (only : options.OnlyInline given fuel) (filled : name ≠ "")
    (stored : Listing.readStored (files name) = .ok program) :
    execute room files { options with inlineProgram := none, program := some (.value name) } =
      (proceed room options program fuel).after (options.note ("Loading program: " ++ name)) := by
  have notNegative : ¬ fuel < 0 := Int.not_lt.2 only.nonneg
  have checked : Options.check
      { options with inlineProgram := none, program := some (.value name) } = .ok fuel := by
    simp [check, sourceCount, only.others, only.budget, notNegative]
  apply execute_of_loaded checked
  simp only [loadProgram, source, filledText?, if_neg filled, stored]

end Options.OnlyInline

/-- Only a number of too many digits has no wording. -/
theorem unparsable_eq {source : List Char} {error : Listing.ParseError}
    (failed : Listing.parse source = .error error) (worded : ∀ cause, error ≠ .unreadable cause) :
    unparsable error = .stop "" ("Program error: " ++ error.message) 1 := by
  cases error with
  | unreadable cause => exact absurd rfl (worded cause)
  | line | missingHeader => rfl
  | malformed refusal =>
      obtain ⟨defect, rfl⟩ := Listing.exists_defect_of_parse failed
      rfl

theorem not_failsInCatalog_of_unparsable (error : Listing.ParseError) :
    ¬ (unparsable error).FailsInCatalog := by
  unfold unparsable
  split <;> simp [Result.FailsInCatalog, Result.stop]

/-- A listing is the only source that the command line names. Unless the listing is empty, it is cut
into lines and read. If it cannot be read the command says why and ends with code one; only for a
number of too many digits it has no wording. If it can be read the command goes on with the program
that it describes, just as it does with that program from a file, and it never turns to the catalog.
Where the listing is empty, or left blank, nothing is read and the command fails in the catalog. -/
theorem run_inline_listing (room : Int) (files : String → Listing.StoredFile)
    (arguments : List String) (options : Options) (given : Given String) (fuel : Int)
    (parsed : parseArguments arguments = .ok (some options))
    (only : options.OnlyInline given fuel) :
    (∀ listing, given = .value listing → listing ≠ "" →
      (∀ error, Listing.parse (inlineLines listing.toList) = .error error →
        (∀ cause, error ≠ .unreadable cause) →
        run room files arguments = .stop "" ("Program error: " ++ error.message) 1) ∧
      (∀ cause, Listing.parse (inlineLines listing.toList) = .error (.unreadable cause) →
        run room files arguments = ⟨"", .failed (.unreadable cause)⟩) ∧
      (∀ program, Listing.parse (inlineLines listing.toList) = .ok program →
        run room files arguments =
          (proceed room options program fuel).after (options.note "Running inline program") ∧
        ∀ (others : String → Listing.StoredFile) (name : String), name ≠ "" →
          Listing.readStored (others name) = .ok program →
          execute room others
              { options with inlineProgram := none, program := some (.value name) } =
            (proceed room options program fuel).after
              (options.note ("Loading program: " ++ name))) ∧
      ¬ (run room files arguments).FailsInCatalog) ∧
    (given = .value "" ∨ given = .blank →
      run room files arguments = ⟨"", .failed (.catalog (.unknown "None"))⟩) := by
  have runEq : run room files arguments = execute room files options := by
    simp only [run, parsed]
  rw [runEq]
  constructor
  · rintro listing rfl filled
    refine ⟨?_, ?_, ?_, ?_⟩
    · intro error unread worded
      rw [only.execute_of_unread filled unread, unparsable_eq unread worded]
    · intro cause unread
      exact only.execute_of_unread filled unread
    · intro program read
      exact ⟨only.execute_of_read filled read,
        fun others name named stored => only.execute_of_stored named stored⟩
    · cases read : Listing.parse (inlineLines listing.toList) with
      | error error =>
          rw [only.execute_of_unread filled read]
          exact not_failsInCatalog_of_unparsable error
      | ok program =>
          rw [only.execute_of_read filled read]
          exact proceed_not_failsInCatalog only.others.2 fuel
  · intro empty
    apply execute_of_stopped only.check_eq
    simp only [loadProgram, only.source_eq_of_empty empty]

/-- A countdown is run; a listing without header is turned down; an empty listing and a blank one
fail in the catalog. -/
theorem run_inline_listing_countdown :
    let files : String → Listing.StoredFile := fun _ => .missing
    run 9 files ["--inline", "tapes: 1;;0 [-1] 0", "--quiet", "--tapes=2"] = ⟨"0\n", .exit 0⟩ ∧
      run 9 files ["-i", "0 [-1] 0;;", "--fuel", "5"] =
        .stop "" ("Program error: " ++ "Line 1: Expected 'tapes: N' header before rules") 1 ∧
      run 9 files ["--inline", ""] = ⟨"", .failed (.catalog (.unknown "None"))⟩ ∧
      run 9 files ["--inline=--"] = ⟨"", .failed (.catalog (.unknown "None"))⟩ := by
  intro files
  have countdown := run_inline_listing 9 files
    ["--inline", "tapes: 1;;0 [-1] 0", "--quiet", "--tapes=2"]
    { inlineProgram := some (.value "tapes: 1;;0 [-1] 0"), quiet := true,
      tapes := some (.value "2") } _ defaultFuel (by decide +kernel)
    ⟨rfl, by decide, rfl, by decide⟩
  have headless := run_inline_listing 9 files ["-i", "0 [-1] 0;;", "--fuel", "5"]
    { inlineProgram := some (.value "0 [-1] 0;;"), fuel := .value 5 } _ 5 (by decide +kernel)
    ⟨rfl, by decide, rfl, by decide⟩
  have empty := run_inline_listing 9 files ["--inline", ""]
    { inlineProgram := some (.value "") } _ defaultFuel (by decide +kernel)
    ⟨rfl, by decide, rfl, by decide⟩
  have blank := run_inline_listing 9 files ["--inline=--"]
    { inlineProgram := some .blank } _ defaultFuel (by decide +kernel)
    ⟨rfl, by decide, rfl, by decide⟩
  refine ⟨?_, ?_, empty.2 (.inl rfl), blank.2 (.inr rfl)⟩
  · obtain ⟨-, -, goesOn, -⟩ := countdown.1 _ rfl (by decide)
    rw [(goesOn ⟨1, [⟨0, 0, [-1]⟩]⟩ (by decide +kernel)).1]
    decide +kernel
  · obtain ⟨turnedDown, -⟩ := headless.1 _ rfl (by decide)
    exact turnedDown (.line 1 .headerExpected) (by decide +kernel) (by simp)

/-- An empty listing is turned down as one without header when it is read, but the command does not
read it. -/
theorem run_empty_listing :
    Listing.parse (inlineLines "".toList) = .error .missingHeader ∧
    run 9 (fun _ => .missing) ["--inline", ""] ≠
      .stop "" ("Program error: " ++ Listing.ParseError.missingHeader.message) 1 ∧
    run 9 (fun _ => .missing) ["--inline", ""] = ⟨"", .failed (.catalog (.unknown "None"))⟩ := by
  decide +kernel

end CounterMachine.CommandLine
