import CounterMachine.CommandLine.Options

/-!
# Reading the command line

Arguments are first told apart: option, value, or neither. An option may be written in full, by a
beginning that only it has, or by its letter; a value follows as the next argument, after an equals
sign, or right after the letter. Flags given by letter can share one dash, and an equals sign may
stand after the first of them. Whatever is left over is an error in the end.
-/

namespace CounterMachine.CommandLine

/-- An option as it is written. -/
structure Mention where
  key : Key
  /-- Whether it is written by its letter. -/
  short : Bool
  /-- The text attached to it, without an equals sign between. -/
  attached : Option (List Char)
  deriving DecidableEq

/-- What an argument is. -/
inductive Token where
  | option (mention : Mention)
  /-- An argument that can be a value. -/
  | value (text : List Char)
  /-- The two dashes after which every argument is a value. -/
  | terminator
  /-- An argument that looks like an option and is none. -/
  | unknown (text : List Char)
  deriving DecidableEq

/-- Cut a text at its first equals sign. -/
def splitAtEquals (text : List Char) : List Char × Option (List Char) :=
  let name := text.takeWhile fun char => char != '='
  match text.dropWhile fun char => char != '=' with
  | _ :: value => (name, some value)
  | [] => (name, none)

/-- Whether a text after a dash looks like a number: digits, or digits with a point that digits
follow. A line feed may end it. -/
def looksNumeric (text : List Char) : Bool :=
  let text := if text.getLast? = some '\n' then text.dropLast else text
  let whole := text.takeWhile Text.isDigit
  match text.dropWhile Text.isDigit with
  | [] => !whole.isEmpty
  | '.' :: places => !places.isEmpty && places.all Text.isDigit
  | _ => false

/-- The options that a text written with two dashes can begin. -/
def longCandidates (name : List Char) : List (List Char × Key) :=
  spellings.filter fun (spelling, _) => name.isPrefixOf spelling

def keyOfLetter? (letter : Char) : Option Key :=
  spellings.lookup ['-', letter]

/-- An argument that is no option by any reading. -/
def looseToken (argument afterDash : List Char) : Token :=
  if looksNumeric afterDash || argument.contains ' ' then .value argument else .unknown argument

/-- Tell what an argument is, the terminator apart. A name that is written in full is never taken
for the beginning of another. -/
def Token.ofArgument (argument : List Char) : Except UsageError Token :=
  match argument with
  | '-' :: second :: rest =>
      let short := second != '-'
      let (name, attached) := splitAtEquals argument
      match spellings.lookup argument with
      | some key => .ok (.option ⟨key, short, none⟩)
      | none =>
          match attached, spellings.lookup name with
          | some _, some key => .ok (.option ⟨key, short, attached⟩)
          | _, _ =>
              if short then
                match keyOfLetter? second with
                | some key => .ok (.option ⟨key, true, some rest⟩)
                | none => .ok (looseToken argument (second :: rest))
              else
                match longCandidates name with
                | [] => .ok (looseToken argument (second :: rest))
                | [(_, key)] => .ok (.option ⟨key, false, attached⟩)
                | candidates => .error (.ambiguous argument (candidates.map Prod.fst))
  | _ => .ok (.value argument)

/-- Tell what the arguments are, in order. -/
def tokens : List (List Char) → Except UsageError (List Token)
  | [] => .ok []
  | argument :: rest =>
      if argument = ['-', '-'] then .ok (.terminator :: rest.map .value)
      else do
        let token ← Token.ofArgument argument
        let later ← tokens rest
        return token :: later

/-- What a mention ends in, once the flags before have been split off. -/
inductive Ending where
  /-- An option with nothing attached. -/
  | bare (key : Key)
  | value (key : Key) (text : List Char)
  deriving DecidableEq

/-- Read the text attached to an option. A flag written by its letter may be followed by the letters
of further options, and what stands after the letter of an option with a value is that value; no
other flag takes anything. -/
def expandAttached (key : Key) (short : Bool) (text : List Char) :
    Except UsageError (List Key × Ending) :=
  if key.takesValue then .ok ([], .value key text)
  else
    match text with
    | [] => .error (.valueIgnored key text)
    | letter :: rest =>
        match if short then keyOfLetter? letter else none with
        | none => .error (.valueIgnored key text)
        | some next =>
            if rest.isEmpty then .ok ([key], .bare next)
            else do
              let (flags, ending) ← expandAttached next true rest
              return (key :: flags, ending)

/-- The flags that a mention sets and what it ends in. -/
def Mention.expand (mention : Mention) : Except UsageError (List Key × Ending) :=
  match mention.attached with
  | none => .ok ([], .bare mention.key)
  | some text => expandAttached mention.key mention.short text

/-- How far the command line has been read. -/
structure Reading where
  options : Options := {}
  /-- Arguments that nothing has used. -/
  leftover : List (List Char) := []
  /-- Whether help has been asked for, which ends the reading. -/
  help : Bool := false
  deriving DecidableEq

/-- Note an argument that nothing uses. -/
def Reading.leave (reading : Reading) (text : List Char) : Reading :=
  { reading with leftover := reading.leftover ++ [text] }

/-- Set a flag, or note that help is wanted. -/
def Reading.setFlag (reading : Reading) (key : Key) : Reading :=
  { reading with
    options := reading.options.setFlag key
    help := reading.help || key == .help }

/-- Give an option its value, unless help has been asked for before. -/
def Reading.setValue (reading : Reading) (key : Key) (value : List Char) :
    Except UsageError Reading :=
  if reading.help then .ok reading
  else (reading.options.setValue key value).map fun options => { reading with options }

/-- Use up the tokens in order. -/
def Reading.consume (reading : Reading) : List Token → Except UsageError Reading
  | [] => .ok reading
  | .value text :: rest | .unknown text :: rest => (reading.leave text).consume rest
  | .terminator :: rest => (reading.leave ['-', '-']).consume rest
  | .option mention :: rest =>
      if reading.help then .ok reading
      else do
        let (flags, ending) ← mention.expand
        let flagged := flags.foldl Reading.setFlag reading
        match ending with
        | .value key text => (← flagged.setValue key text).consume rest
        | .bare key =>
            if key.takesValue then
              match rest with
              | .value text :: later => (← flagged.setValue key text).consume later
              | _ => .error (.valueExpected key)
            else (flagged.setFlag key).consume rest

/-- Read a command line; `none` stands for a request for help. -/
def parseArguments (arguments : List String) : Except UsageError (Option Options) := do
  let reading ← Reading.consume {} (← tokens (arguments.map String.toList))
  if reading.help then return none
  else if reading.leftover.isEmpty then return some reading.options
  else throw (.unrecognized reading.leftover)

end CounterMachine.CommandLine
