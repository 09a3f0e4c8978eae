import CounterMachine.Text.Printable

/-!
# Quoted text

Messages show a text in quotes, with escapes for whatever would not be visible. The apostrophe is
the usual quote; a text that holds an apostrophe and no double quote is put in double quotes.
-/

namespace CounterMachine.Text

/-- The quote that encloses a text. -/
def quoteFor (text : List Char) : Char :=
  if text.contains '\x27' && !text.contains '\x22' then '\x22' else '\x27'

/-- Lower-case hexadecimal digits, padded with zeros to a least width. -/
def hex (width value : Nat) : List Char :=
  let digits := Nat.toDigits 16 value
  List.replicate (width - digits.length) '0' ++ digits

/-- One character inside the given quotes. A character that is not printable is written by its
code point, in the shortest of three widths. -/
def escape (quote char : Char) : List Char :=
  let code := char.toNat
  if char == quote || char == '\x5c' then ['\x5c', char]
  else if char == '\t' then ['\x5c', 't']
  else if char == '\n' then ['\x5c', 'n']
  else if char == '\r' then ['\x5c', 'r']
  else if isPrintable char then [char]
  else if code ≤ 0xff then '\x5c' :: 'x' :: hex 2 code
  else if code ≤ 0xffff then '\x5c' :: 'u' :: hex 4 code
  else '\x5c' :: 'U' :: hex 8 code

def quoted (text : List Char) : List Char :=
  let quote := quoteFor text
  quote :: (text.flatMap (escape quote) ++ [quote])

end CounterMachine.Text
