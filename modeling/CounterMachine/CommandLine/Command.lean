import CounterMachine.CommandLine.Arguments
import CounterMachine.Elimination.Report
import CounterMachine.Launch
import CounterMachine.Listing.File
import CounterMachine.Listing.Printer

/-!
# The command

What the command prints and how it ends, as a function of its arguments, the files they may name
and the room that there is for a row of counters. A run goes through stages: read the options, load
a program, build a machine, open a session, run it, report. Each stage ends the command if it
fails.
-/

namespace CounterMachine.CommandLine

open Text.Numeral (text listText)

/-- An error for which the command has no wording of its own. -/
inductive Failure where
  /-- The fuel is left blank. -/
  | blankFuel
  /-- The name of a catalog program is left blank. -/
  | blankKey
  /-- The inputs of a catalog program are left blank. -/
  | blankInputs
  | directory
  | nameTooLong
  | undecodable (fault : Text.Utf8.Fault)
  | unreadable (error : Text.Numeral.Error)
  /-- A message would show too long a number. -/
  | unshowable
  | catalog (error : Library.Catalog.Error)
  | tapes (error : RowError)
  | elimination (error : Elimination.EncodeError)
  | run (error : RunError)
  | decoding (error : Elimination.DecodeError)
  deriving DecidableEq

def Failure.message : Failure → String
  | .blankFuel => "'<' not supported between instances of 'list' and 'int'"
  | .blankKey => "unhashable type: 'list'"
  | .blankInputs => "'list' object has no attribute 'replace'"
  | .directory => "Is a directory"
  | .nameTooLong => "File name too long"
  | .undecodable fault => fault.message
  | .unreadable error => error.message
  | .catalog error => error.message
  | .unshowable => Text.Numeral.unshowableMessage
  | .tapes error => error.message
  | .elimination error => error.message
  | .run error => error.message
  | .decoding error => error.message

/-- How the command ends. -/
inductive Conclusion where
  | exit (code : Nat)
  | misused (error : UsageError)
  | failed (failure : Failure)
  deriving DecidableEq

/-- What the command has printed and how it has ended. -/
structure Result where
  output : String
  conclusion : Conclusion
  deriving DecidableEq

/-- End the command with a message and an exit code. -/
def Result.stop (output message : String) (code : Nat) : Result :=
  ⟨output ++ message ++ "\n", .exit code⟩

/-- Where the program comes from. -/
inductive Source where
  | file (name : String)
  | inlineText (source : String)
  | builtIn (key : Option (Given String))
  deriving DecidableEq

/-- The text that an option is given, unless that is empty. -/
def filledText? : Option (Given String) → Option String
  | some (.value text) => if text = "" then none else some text
  | some .blank | none => none

namespace Options

def sourceCount (options : Options) : Nat :=
  [options.program, options.inlineProgram, options.builtIn].countP Option.isSome

/-- The source that is used. An empty or blank file name or listing is passed over. -/
def source (options : Options) : Source :=
  match filledText? options.program, filledText? options.inlineProgram with
  | some name, _ => .file name
  | none, some listing => .inlineText listing
  | none, none => .builtIn options.builtIn

/-- Only printing the single-state form implies being quiet. -/
def isQuiet (options : Options) : Bool :=
  options.quiet || options.emit

/-- A line that is left out when the command is to be quiet. -/
def note (options : Options) (line : String) : String :=
  if options.isQuiet then "" else line ++ "\n"

def initialState (options : Options) : Scalar :=
  match options.state with
  | .value state => .integer state
  | .blank => .blank

/-- The fuel, unless the options do not name exactly one source or the fuel is no budget. -/
def check (options : Options) : Except Conclusion Int :=
  if options.sourceCount ≠ 1 then .error (.misused .oneSourceRequired)
  else
    match options.fuel with
    | .blank => .error (.failed .blankFuel)
    | .value fuel => if fuel < 0 then .error (.misused .negativeFuel) else .ok fuel

end Options

/-- A listing given on the command line, in which two semicolons stand for a line feed. -/
def inlineLines : List Char → List Char
  | ';' :: ';' :: rest => '\n' :: inlineLines rest
  | char :: rest => char :: inlineLines rest
  | [] => []

/-- End the command because a listing cannot be read. A number of too many digits has no wording
here. -/
def unparsable : Listing.ParseError → Result
  | .unreadable error => ⟨"", .failed (.unreadable error)⟩
  | .malformed .unshowable => ⟨"", .failed .unshowable⟩
  | error => .stop "" ("Program error: " ++ error.message) 1

/-- Load the program, with the line that says so. -/
def loadProgram (files : String → Listing.StoredFile) (options : Options) :
    Except Result (Program × String) :=
  match options.source with
  | .file name =>
      match Listing.readStored (files name) with
      | .ok program => .ok (program, options.note ("Loading program: " ++ name))
      | .error .missing => .error (.stop "" ("Error: Program file not found: " ++ name) 1)
      | .error .directory => .error ⟨"", .failed .directory⟩
      | .error .nameTooLong => .error ⟨"", .failed .nameTooLong⟩
      | .error (.undecodable fault) => .error ⟨"", .failed (.undecodable fault)⟩
      | .error (.unparsable error) => .error (unparsable error)
  | .inlineText source =>
      match Listing.parse (inlineLines source.toList) with
      | .ok program => .ok (program, options.note "Running inline program")
      | .error error => .error (unparsable error)
  | .builtIn (some .blank) => .error ⟨"", .failed .blankKey⟩
  | .builtIn none => .error ⟨"", .failed (.catalog (.unknown "None"))⟩
  | .builtIn (some (.value key)) =>
      match Library.Catalog.standard.build key with
      | .ok program => .ok (program, options.note ("Running library program: " ++ key))
      | .error error => .error ⟨"", .failed (.catalog error)⟩

inductive TapesError where
  | numeral (error : Text.Numeral.Error)
  | tooFewInputs (count : Nat)
  | tooManyInputs
  deriving DecidableEq

def TapesError.message : TapesError → String
  | .numeral error => error.message
  | .tooFewInputs count =>
      "not enough values to unpack (expected 2, got " ++ text count ++ ")"
  | .tooManyInputs => "too many values to unpack (expected 2)"

def readCounters (source : String) : Except TapesError (List Int) :=
  (Text.Numeral.readList source.toList).mapError .numeral

def readInputs (source : String) : Except TapesError (Int × Int) := do
  match ← readCounters source with
  | [x, y] => return (x, y)
  | _ :: _ :: _ :: _ => throw .tooManyInputs
  | inputs => throw (.tooFewInputs inputs.length)

def invalidTapes (printed : String) (error : TapesError) : Result :=
  .stop printed ("Invalid tapes: " ++ error.message) 1

/-- Build the machine of a catalog program from its inputs. -/
def buildFromInputs (key : String) (inputs : Given String) (printed : String) :
    Except Result DraftMachine :=
  match inputs with
  | .blank => .error ⟨printed, .failed .blankInputs⟩
  | .value text =>
      match readInputs text with
      | .error error => .error (invalidTapes printed error)
      | .ok (x, y) =>
          match Library.Catalog.standard.initialMachine key x y with
          | .error error => .error ⟨printed, .failed (.catalog error)⟩
          | .ok machine => .ok machine.toDraft

/-- The counters to start from: those given, or zeros if there is room for them. -/
def buildCounters (room : Int) (options : Options) (program : Program) (printed : String) :
    Except Result (List Int) :=
  match filledText? options.tapes with
  | some tapes => (readCounters tapes).mapError (invalidTapes printed)
  | none =>
      match rowError? room program.tapes with
      | some error => .error ⟨printed, .failed (.tapes error)⟩
      | none => .ok (List.replicate program.tapes.toNat 0)

/-- Build the machine to start from: on the inputs of a catalog program, the given tapes, or zeros.
`printed` is what has been printed before. -/
def buildMachine (room : Int) (options : Options) (program : Program) (printed : String) :
    Except Result DraftMachine :=
  match options.builtIn with
  | some (.value key) => buildFromInputs key options.inputs printed
  | some .blank | none => do
      let counters ← buildCounters room options program printed
      return { state := options.initialState, counters := counters.map .integer }

/-- End the command because the machine does not fit the program. -/
def unfit (printed : String) : Refusal → Result
  | .defective defect => .stop printed ("Machine error: " ++ defect.message) 1
  | .unshowable => ⟨printed, .failed .unshowable⟩

/-- Prepare the run that the options ask for, with the line that announces a single-state form. -/
def prepare (options : Options) (launch : Launch) (printed : String) :
    Except Result (Launch × String) :=
  if options.eliminate then
    match launch.eliminate with
    | .error (.malformed refusal) => .error (unfit printed refusal)
    | .error (.encoding error) => .error ⟨printed, .failed (.elimination error)⟩
    | .ok single =>
        let tapes := text single.program.tapes
        let rules := text single.program.rules.length
        .ok (single,
          printed ++ options.note ("Transpiled to " ++ tapes ++ " tapes, " ++ rules ++ " rules"))
  else .ok (launch, printed)

def openSession (options : Options) (launch : Launch) (printed : String) :
    Except Result Session :=
  match launch.session options.trace with
  | .ok session => .ok session
  | .error (.malformed refusal) => .error (unfit printed refusal)
  | .error error => .error ⟨printed, .failed (.run error)⟩

/-- What the command says about the session it has run: the trace, the figures, or only the
counters. -/
def closingReport (options : Options) (program : Program) (session : Session) :
    Except Elimination.DecodeError String := do
  let summary := session.summary
  if options.trace then return session.report
  else if options.isQuiet then
    return String.intercalate " " (summary.counters.map text) ++ "\n"
  else
    let figures := ["", "Steps: " ++ text summary.steps, "Halted: " ++ truthText summary.halted,
      "State: " ++ optionText summary.state, "Tapes: " ++ listText summary.counters]
    let source ← if options.eliminate then Elimination.sourceLines program session else pure []
    return unlines (figures ++ source)

/-- The exit code for an error of the run, if the command has one. -/
def exitCode? : RunError → Option Nat
  | .outOfFuel _ _ => some 2
  | .fault (.overflow _ _) => some 3
  | _ => none

def runSession (options : Options) (program : Program) (session : Session) (printed : String) :
    Result :=
  let line := ruler 60 '-'
  let started := printed ++ options.note line ++ options.note "Executing..." ++ options.note line
  let finish (output : String) (code : Nat) (final : Session) : Result :=
    match closingReport options program final with
    | .ok report => ⟨output ++ report, .exit code⟩
    | .error error => ⟨output, .failed (.decoding error)⟩
  match session.run with
  | (.ok (), final) => finish started 0 final
  | (.error error, final) =>
      match exitCode? error with
      | some code => finish (started ++ "Execution error: " ++ error.message ++ "\n") code final
      | none => ⟨started, .failed (.run error)⟩

/-- Print the single-state form of a program and nothing else. -/
def emit (program : Program) : Result :=
  match Elimination.eliminate program.toDraft with
  | .ok single => ⟨Listing.formatText single, .exit 0⟩
  | .error (.malformed refusal) => ⟨"", .failed (.run (.malformed refusal))⟩
  | .error (.encoding error) => ⟨"", .failed (.elimination error)⟩

/-- All stages after the options have been checked; a stage that ends the command early gives its
result as an error. -/
def stages (room : Int) (files : String → Listing.StoredFile) (options : Options) (fuel : Int) :
    Except Result Result := do
  let (program, loaded) ← loadProgram files options
  if options.emit then return emit program
  let machine ← buildMachine room options program loaded
  let (launch, printed) ← prepare options ⟨program, machine, fuel⟩ loaded
  let session ← openSession options launch printed
  return runSession options program session printed

def execute (room : Int) (files : String → Listing.StoredFile) (options : Options) : Result :=
  match options.check with
  | .error conclusion => ⟨"", conclusion⟩
  | .ok fuel =>
      match stages room files options fuel with
      | .ok result => result
      | .error result => result

def helpText : String :=
  unlines ("usage: main.py [options]" :: "" :: "options:" ::
    Key.all.map fun key => "  " ++ String.intercalate ", " key.names)

def run (room : Int) (files : String → Listing.StoredFile) (arguments : List String) : Result :=
  match parseArguments arguments with
  | .error error => ⟨"", .misused error⟩
  | .ok none => ⟨helpText, .exit 0⟩
  | .ok (some options) => execute room files options

end CounterMachine.CommandLine
