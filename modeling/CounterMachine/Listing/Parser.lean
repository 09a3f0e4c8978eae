import CounterMachine.Defect
import CounterMachine.Listing.Line

/-!
# Reading a listing

The first line that says anything must be the header; every later one must be a rule. Errors name
the first line that is at fault. Whether the rules fit the header is checked last, so a misspelt
line anywhere is reported before a rule of the wrong width.
-/

namespace CounterMachine.Listing

open Text (Numeral.read Numeral.readList Numeral.text)

/-- What can be wrong with a line. -/
inductive LineFault where
  | duplicateHeader
  | headerExpected
  | unknownFormat (content : List Char)
  | invalidAdjustment (body : List Char)
  deriving DecidableEq

def LineFault.message : LineFault → String
  | .duplicateHeader => "Duplicate tapes header"
  | .headerExpected => "Expected 'tapes: N' header before rules"
  | .unknownFormat content => "Unknown rule format: " ++ String.ofList content
  | .invalidAdjustment body => "Invalid tape adjustment in [" ++ String.ofList body ++ "]"

/-- Why a text is no listing of a well-formed program. -/
inductive ParseError where
  /-- A line, counted from one, is at fault. -/
  | line (number : Nat) (fault : LineFault)
  /-- No line says anything. -/
  | missingHeader
  /-- A tape count or state cannot be read as a number. -/
  | unreadable (error : Text.Numeral.Error)
  /-- The rules do not fit the header. -/
  | malformed (refusal : Refusal)
  deriving DecidableEq

def ParseError.message : ParseError → String
  | .line number fault => "Line " ++ Numeral.text number ++ ": " ++ fault.message
  | .missingHeader => "Missing 'tapes: N' header"
  | .unreadable error => error.message
  | .malformed refusal => refusal.message

def readNumber (digits : List Char) : Except ParseError Int :=
  (Numeral.read digits).mapError .unreadable

/-- Read the adjustments between the brackets of a rule on the given line. -/
def readAdjustments (number : Nat) (body : List Char) : Except ParseError (List Int) :=
  (Numeral.readList body).mapError fun _ => .line number (.invalidAdjustment body)

/-- Read a rule on the given line: both states first, then the adjustments. -/
def readRule (number : Nat) (text : RuleText) : Except ParseError Rule := do
  let source ← readNumber text.source
  let target ← readNumber text.target
  let adjustments ← readAdjustments number text.body
  return { source, target, adjustments }

/-- Read the lines after the header, the first of which has the given number. -/
def readRules (number : Nat) : List (List Char) → Except ParseError (List Rule)
  | [] => .ok []
  | line :: rest =>
      match Line.ofText line with
      | .blank => readRules (number + 1) rest
      | .header _ => .error (.line number .duplicateHeader)
      | .rule text => do
          let rule ← readRule number text
          let rules ← readRules (number + 1) rest
          return rule :: rules
      | .other content => .error (.line number (.unknownFormat content))

/-- Read the lines of a listing, the first of which has the given number. -/
def readLines (number : Nat) : List (List Char) → Except ParseError Program
  | [] => .error .missingHeader
  | line :: rest =>
      match Line.ofText line with
      | .blank => readLines (number + 1) rest
      | .header digits => do
          let tapes ← readNumber digits
          let rules ← readRules (number + 1) rest
          return { tapes, rules }
      | .rule _ | .other _ => .error (.line number .headerExpected)

/-- The lines of a text: what stands between line feeds. -/
def lines (source : List Char) : List (List Char) :=
  source.splitOn '\n'

/-- Read a listing into a well-formed program. -/
def parse (source : List Char) : Except ParseError Program :=
  match readLines 1 (lines source) with
  | .error error => .error error
  | .ok program => program.toDraft.accept.mapError .malformed

def parseText (source : String) : Except ParseError Program :=
  parse source.toList

end CounterMachine.Listing
