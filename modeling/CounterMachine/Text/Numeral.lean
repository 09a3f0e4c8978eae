import CounterMachine.Text.Blank
import CounterMachine.Text.Digit
import CounterMachine.Text.Quoted

/-!
# Integer numerals

Writing and reading whole numbers. Numbers are written in plain ASCII decimal. Reading is more
generous: digits of any script, a sign, white space around the number, and single underscores
between digits. A numeral of more than `digitLimit` digits is refused whatever follows it. A
message that would have to show a longer number is replaced by one that says so.
-/

namespace CounterMachine.Text.Numeral

/-- Decimal digits of a natural number, most significant first. -/
def writeNat (value : Nat) : List Char :=
  Nat.toDigits 10 value

/-- Decimal text of an integer: a minus sign before the digits of a negative number. -/
def write : Int → List Char
  | .ofNat value => writeNat value
  | .negSucc value => '-' :: writeNat (value + 1)

def text (value : Int) : String :=
  String.ofList (write value)

/-- The most digits a numeral may have. Leading zeros count, underscores and the sign do not. -/
def digitLimit : Nat := 4300

/-- Why a text is not read as a number. -/
inductive Error where
  /-- The text is not a numeral. -/
  | malformed (text : List Char)
  /-- The numeral has more digits than the limit. -/
  | tooLong (digits : Nat)
  deriving DecidableEq

/-- Wording of a failed reading. A quoted text is cut after 200 characters. -/
def Error.message : Error → String
  | .malformed text =>
      "invalid literal for int() with base 10: " ++ String.ofList ((quoted text).take 200)
  | .tooLong digits =>
      "Exceeds the limit (" ++ text digitLimit ++
        " digits) for integer string conversion: value has " ++ text digits ++
        " digits; use sys.set_int_max_str_digits() to increase the limit"

/-- Whether a number is short enough to be shown in a message. -/
def isShowable (value : Int) : Bool :=
  (writeNat value.natAbs).length ≤ digitLimit

/-- The message that shows the given numbers, unless one of them is too long. -/
def showing? (numbers : List Int) (message : String) : Option String :=
  if numbers.all isShowable then some message else none

/-- Wording in place of a message that would show too long a number. -/
def unshowableMessage : String :=
  "Exceeds the limit (" ++ text digitLimit ++
    " digits) for integer string conversion; use sys.set_int_max_str_digits() to increase the limit"

/-- White space that may surround a numeral: all of it but the four information separators. -/
def isPadding (char : Char) : Bool :=
  isBlank char && !(0x1c ≤ char.toNat && char.toNat ≤ 0x1f)

/-- Whether a character can stand in the body of a numeral. -/
def isBodyChar (char : Char) : Bool :=
  isDigit char || char == '_'

/-- Digits with single underscores between two digits. -/
def isBody : List Char → Bool
  | [] => false
  | [char] => isDigit char
  | char :: '_' :: rest => isDigit char && isBody rest
  | char :: rest => isDigit char && isBody rest

def digitValues (body : List Char) : List Nat :=
  body.filterMap digitValue?

/-- The number with the given decimal digits, most significant first. -/
def ofDigits (digits : List Nat) : Nat :=
  digits.foldl (fun value digit => 10 * value + digit) 0

/-- Split off a sign; `true` means negative. -/
def splitSign : List Char → Bool × List Char
  | '-' :: rest => (true, rest)
  | '+' :: rest => (false, rest)
  | rest => (false, rest)

/-- Read an integer. The longest run of digits and underscores after the sign is the body; a body
over the limit is reported before anything that stands after it is looked at. -/
def read (text : List Char) : Except Error Int :=
  let (negative, unsigned) := splitSign (text.dropWhile isPadding)
  let body := unsigned.takeWhile isBodyChar
  let digits := digitValues body
  if !isBody body then
    .error (.malformed text)
  else if digitLimit < digits.length then
    .error (.tooLong digits.length)
  else if !(unsigned.dropWhile isBodyChar).all isPadding then
    .error (.malformed text)
  else
    .ok (if negative then -(ofDigits digits : Int) else ofDigits digits)

/-- Read a list of numbers in order; the first number that fails decides the error. -/
def readAll (texts : List (List Char)) : Except Error (List Int) :=
  texts.mapM read

/-- Read numbers that stand between commas and white space. -/
def readList (text : List Char) : Except Error (List Int) :=
  readAll (pieces isListSeparator text)

/-- Text of a list of numbers: brackets around the entries, a comma and a space between them. -/
def writeList (values : List Int) : List Char :=
  '[' :: (List.intercalate [',', ' '] (values.map write) ++ [']'])

def listText (values : List Int) : String :=
  String.ofList (writeList values)

end CounterMachine.Text.Numeral
