import CounterMachine.Library.Catalog

/-!
# Options of the command line

The options, how they are spelled, what they set, and what can be wrong with a command line.
-/

namespace CounterMachine.CommandLine

/-- What an option is given. -/
inductive Given (α : Type) where
  | value (value : α)
  /-- The option is named and left without a value. -/
  | blank
  deriving DecidableEq

/-- What the options set, with the values that hold if they are not given. -/
structure Options where
  /-- Name of a file with a listing. -/
  program : Option (Given String) := none
  /-- A listing on the command line itself. -/
  inlineProgram : Option (Given String) := none
  /-- Name of a program of the catalog. -/
  builtIn : Option (Given String) := none
  /-- Inputs of a catalog program. -/
  inputs : Given String := .value "0,0"
  /-- Initial counters of a listed program. -/
  tapes : Option (Given String) := none
  state : Given Int := .value 0
  fuel : Given Int := .value defaultFuel
  /-- Run the single-state form. -/
  eliminate : Bool := false
  /-- Only print the single-state form. -/
  emit : Bool := false
  trace : Bool := false
  quiet : Bool := false
  deriving DecidableEq

/-- An option. -/
inductive Key where
  | help
  | program
  | inlineProgram
  | builtIn
  | inputs
  | tapes
  | state
  | fuel
  | eliminate
  | emit
  | trace
  | quiet
  deriving DecidableEq

namespace Key

def all : List Key :=
  [.help, .program, .inlineProgram, .builtIn, .inputs, .tapes, .state, .fuel, .eliminate, .emit,
    .trace, .quiet]

/-- The spellings of an option. -/
def names : Key → List String
  | .help => ["-h", "--help"]
  | .program => ["--program", "-p"]
  | .inlineProgram => ["--inline", "-i"]
  | .builtIn => ["--example", "-e"]
  | .inputs => ["--inputs"]
  | .tapes => ["--tapes"]
  | .state => ["--state", "-s"]
  | .fuel => ["--fuel", "-f"]
  | .eliminate => ["--transpile"]
  | .emit => ["--emit"]
  | .trace => ["--trace", "-t"]
  | .quiet => ["--quiet", "-q"]

/-- Whether an option takes a value; the others are flags. -/
def takesValue : Key → Bool
  | .program | .inlineProgram | .builtIn | .inputs | .tapes | .state | .fuel => true
  | .help | .eliminate | .emit | .trace | .quiet => false

end Key

/-- Every spelling with its option, in the order of declaration. -/
def spellings : List (List Char × Key) :=
  Key.all.flatMap fun key => key.names.map fun name => (name.toList, key)

/-- What can be wrong with a command line. -/
inductive UsageError where
  | ambiguous (argument : List Char) (candidates : List (List Char))
  | valueExpected (key : Key)
  | invalidInteger (key : Key) (value : List Char)
  | invalidChoice (key : Key) (value : List Char) (choices : List String)
  | valueIgnored (key : Key) (value : List Char)
  | unrecognized (arguments : List (List Char))
  | oneSourceRequired
  | negativeFuel
  deriving DecidableEq

def joined (separator : String) (words : List (List Char)) : String :=
  String.intercalate separator (words.map String.ofList)

def optionMessage (key : Key) (message : String) : String :=
  "argument " ++ String.intercalate "/" key.names ++ ": " ++ message

def quotedText (text : List Char) : String :=
  String.ofList (Text.quoted text)

def UsageError.message : UsageError → String
  | .ambiguous argument candidates =>
      "ambiguous option: " ++ String.ofList argument ++ " could match " ++ joined ", " candidates
  | .valueExpected key => optionMessage key "expected one argument"
  | .invalidInteger key value => optionMessage key ("invalid int value: " ++ quotedText value)
  | .invalidChoice key value choices =>
      let choices := choices.map fun choice => quotedText choice.toList
      optionMessage key ("invalid choice: " ++ quotedText value ++ " (choose from " ++
        String.intercalate ", " choices ++ ")")
  | .valueIgnored key value =>
      optionMessage key ("ignored explicit argument " ++ quotedText value)
  | .unrecognized arguments => "unrecognized arguments: " ++ joined " " arguments
  | .oneSourceRequired => "Exactly one of --program, --inline or --example is required"
  | .negativeFuel => "--fuel must be non-negative"

def readInteger (key : Key) (value : List Char) : Except UsageError Int :=
  (Text.Numeral.read value).mapError fun _ => .invalidInteger key value

namespace Options

def setFlag (options : Options) : Key → Options
  | .eliminate => { options with eliminate := true }
  | .emit => { options with emit := true }
  | .trace => { options with trace := true }
  | .quiet => { options with quiet := true }
  | _ => options

/-- Leave an option without a value. -/
def setBlank (options : Options) (key : Key) : Options :=
  match key with
  | .program => { options with program := some .blank }
  | .inlineProgram => { options with inlineProgram := some .blank }
  | .builtIn => { options with builtIn := some .blank }
  | .inputs => { options with inputs := .blank }
  | .tapes => { options with tapes := some .blank }
  | .state => { options with state := .blank }
  | .fuel => { options with fuel := .blank }
  | .help | .eliminate | .emit | .trace | .quiet => options.setFlag key

/-- The value that leaves an option blank. -/
def blankMark : List Char := ['-', '-']

/-- Give an option its value; the last value given counts. The blank mark is neither converted nor
compared with the choices. -/
def setValue (options : Options) (key : Key) (value : List Char) : Except UsageError Options :=
  let text := String.ofList value
  if value = blankMark then .ok (options.setBlank key)
  else
    match key with
    | .program => .ok { options with program := some (.value text) }
    | .inlineProgram => .ok { options with inlineProgram := some (.value text) }
    | .inputs => .ok { options with inputs := .value text }
    | .tapes => .ok { options with tapes := some (.value text) }
    | .builtIn =>
        let choices := Library.Catalog.standard.keys
        if choices.contains text then .ok { options with builtIn := some (.value text) }
        else .error (.invalidChoice key value choices)
    | .state => (readInteger key value).map fun state => { options with state := .value state }
    | .fuel => (readInteger key value).map fun fuel => { options with fuel := .value fuel }
    | .help | .eliminate | .emit | .trace | .quiet => .ok (options.setFlag key)

end Options

end CounterMachine.CommandLine
