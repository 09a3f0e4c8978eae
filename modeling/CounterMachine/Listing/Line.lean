import CounterMachine.Text.Blank
import CounterMachine.Text.Digit

/-!
# Lines of a listing

A listing is the text form of a program. Of each line only the content matters: what stands before
the first comment mark, without white space around it. A content is empty, a header that declares
the number of tapes, a rule, or nothing of the kind. Numbers are cut out here and read later.
-/

namespace CounterMachine.Listing

open Text (isBlank isDigit trim)

def isCommentMark (char : Char) : Bool :=
  char == '#' || char == ';'

/-- What a line says: its text before any comment, trimmed. -/
def content (line : List Char) : List Char :=
  trim (line.takeWhile fun char => !isCommentMark char)

def isDigits (text : List Char) : Bool :=
  !text.isEmpty && text.all isDigit

/-- The spellings of each letter of the header's keyword. The long s is a small letter whose
capital is the usual one. -/
def keywordLetters : List (List Char) :=
  [['t', 'T'], ['a', 'A'], ['p', 'P'], ['e', 'E'], ['s', 'S', 'ſ']]

/-- The text after a word, given by the spellings of its letters. -/
def dropWord? : List (List Char) → List Char → Option (List Char)
  | [], rest => some rest
  | spellings :: letters, char :: rest =>
      if spellings.contains char then dropWord? letters rest else none
  | _ :: _, [] => none

/-- The digits of a header: the keyword, a colon, and digits to the end. -/
def headerDigits? (content : List Char) : Option (List Char) :=
  match (dropWord? keywordLetters content).map (List.dropWhile isBlank) with
  | some (':' :: rest) =>
      let digits := rest.dropWhile isBlank
      if isDigits digits then some digits else none
  | _ => none

/-- The parts of a rule's text. -/
structure RuleText where
  source : List Char
  /-- What stands between the brackets. -/
  body : List Char
  target : List Char
  deriving DecidableEq

/-- The parts of a rule: digits, a bracketed body without closing brackets, and digits. -/
def ruleText? (content : List Char) : Option RuleText :=
  let source := content.takeWhile isDigit
  if source.isEmpty then none
  else
    match (content.dropWhile isDigit).dropWhile isBlank with
    | '[' :: inside =>
        let body := inside.takeWhile fun char => char != ']'
        match inside.dropWhile fun char => char != ']' with
        | ']' :: rest =>
            let target := rest.dropWhile isBlank
            if isDigits target then some { source, body, target } else none
        | _ => none
    | _ => none

/-- What a line is. -/
inductive Line where
  | blank
  | header (digits : List Char)
  | rule (text : RuleText)
  | other (content : List Char)
  deriving DecidableEq

/-- Classify a line by its content. -/
def Line.ofText (line : List Char) : Line :=
  let content := content line
  if content.isEmpty then .blank
  else
    match headerDigits? content with
    | some digits => .header digits
    | none =>
        match ruleText? content with
        | some text => .rule text
        | none => .other content

end CounterMachine.Listing
