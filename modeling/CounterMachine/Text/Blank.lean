/-!
# Blanks

Which characters count as white space, and the two ways the rest of the library uses them:
trimming a text and cutting it into pieces.
-/

namespace CounterMachine.Text

/-- White space: the ASCII controls from tab to carriage return, the four information separators,
the space, the next-line control, and the Unicode space, line and paragraph separators. -/
def isBlank (char : Char) : Bool :=
  let code := char.toNat
  (0x09 ≤ code && code ≤ 0x0d) || (0x1c ≤ code && code ≤ 0x20) || code == 0x85 || code == 0xa0 ||
    code == 0x1680 || (0x2000 ≤ code && code ≤ 0x200a) || code == 0x2028 || code == 0x2029 ||
    code == 0x202f || code == 0x205f || code == 0x3000

/-- Remove the characters of a class from both ends. -/
def trimBy (drop : Char → Bool) (text : List Char) : List Char :=
  ((text.dropWhile drop).reverse.dropWhile drop).reverse

/-- Remove white space from both ends. -/
def trim (text : List Char) : List Char :=
  trimBy isBlank text

/-- The maximal runs of characters outside a separator class, in order. -/
def pieces (separator : Char → Bool) (text : List Char) : List (List Char) :=
  (text.splitOnP separator).filter fun piece => !piece.isEmpty

/-- Separators of a list of numbers: white space and commas, in any number and order. -/
def isListSeparator (char : Char) : Bool :=
  isBlank char || char == ','

end CounterMachine.Text
