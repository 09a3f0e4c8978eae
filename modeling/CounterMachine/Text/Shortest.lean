import CounterMachine.Text.Binary64
import CounterMachine.Text.Numeral

/-!
# Shortest decimals

A floating-point number is written with the fewest digits that are read back as that number, and of
those with the digits nearest to it. Numbers of moderate size are written positionally, with at
least one place, so that they never look like integers; the others have an exponent.
-/

namespace CounterMachine.Text.Binary64

/-- The number `digits · 10 ^ exponent`. -/
structure Decimal where
  digits : Nat
  exponent : Int
  deriving DecidableEq

/-- The least exponent of ten whose power exceeds a fraction. Comparing the decimal lengths of
numerator and denominator leaves two candidates. -/
def decimalScale (ratio : Ratio) : Int :=
  let length (value : Nat) : Int := (Numeral.writeNat value).length
  let estimate := length ratio.numerator - length ratio.denominator
  if (ratio.scale 10 (-estimate)).floor = 0 then estimate else estimate + 1

/-- The decimals on the grid of `10 ^ exponent` next to a fraction, the nearer one first. Of two
that are equally near, the even one is first. -/
def neighbours (ratio : Ratio) (exponent : Int) : List Decimal :=
  let onGrid := ratio.scale 10 (-exponent)
  let nearer := onGrid.round
  let other := if nearer = onGrid.floor then onGrid.floor + 1 else onGrid.floor
  [⟨nearer, exponent⟩, ⟨other, exponent⟩]

/-- The most digits that are ever needed. -/
def maxDigits : Nat := 17

/-- The shortest decimal that is read back as `significand · 2 ^ exponent`, searched on finer and
finer grids. -/
def shortest (significand : Nat) (exponent : Int) : Decimal :=
  let ratio := Ratio.scaled significand 2 exponent
  let scale := decimalScale ratio
  let readsBack (decimal : Decimal) : Bool :=
    ofDecimal false decimal.digits decimal.exponent == .finite false significand exponent
  let found := (List.range maxDigits).findSome? fun (finer : Nat) =>
    (neighbours ratio (scale - 1 - finer)).find? readsBack
  found.getD ⟨significand * Nat.pow 2 exponent.toNat * Nat.pow 5 (-exponent).toNat,
    if exponent < 0 then exponent else 0⟩

/-- Digits without the zeros at their end, and the exponent of the last digit that is left. -/
def Decimal.significant (decimal : Decimal) : List Char × Int :=
  let digits := Numeral.writeNat decimal.digits
  let kept := (digits.reverse.dropWhile (· == '0')).reverse
  (kept, decimal.exponent + (digits.length - kept.length : Nat))

/-- An exponent with its sign and at least two digits. -/
def exponentText (exponent : Int) : List Char :=
  let digits := Numeral.writeNat exponent.natAbs
  (if exponent < 0 then '-' else '+') :: (List.replicate (2 - digits.length) '0' ++ digits)

/-- A decimal is written positionally if its first digit stands between the fourth place after the
point and the sixteenth digit before it. -/
def Decimal.write (decimal : Decimal) : List Char :=
  let (digits, lastExponent) := decimal.significant
  let point := (digits.length : Int) + lastExponent
  if -4 < point ∧ point ≤ 16 then
    if point ≤ 0 then '0' :: '.' :: (List.replicate (-point).toNat '0' ++ digits)
    else if lastExponent < 0 then digits.take point.toNat ++ '.' :: digits.drop point.toNat
    else digits ++ List.replicate lastExponent.toNat '0' ++ ['.', '0']
  else
    let places := digits.drop 1
    digits.take 1 ++ (if places.isEmpty then [] else '.' :: places) ++
      'e' :: exponentText (point - 1)

def write : Binary64 → List Char
  | .finite negative significand exponent =>
      let magnitude :=
        if significand = 0 then ['0', '.', '0'] else (shortest significand exponent).write
      if negative then '-' :: magnitude else magnitude
  | .infinite negative => if negative then "-inf".toList else "inf".toList
  | .notANumber => "nan".toList

end CounterMachine.Text.Binary64
