/-!
# Binary floating point

Numbers of the 64-bit binary format as exact values. A finite number is an integer below `2 ^ 53`
times a power of two whose exponent is at least `-1074`; zero has two signs. A decimal is read as
the number nearest to it, a tie going to the even significand, and as an infinity if it is too
large for the format. All arithmetic is on natural numbers.
-/

namespace CounterMachine.Text

/-- A number of the 64-bit binary format. -/
inductive Binary64 where
  /-- `significand · 2 ^ exponent`, or its negative. -/
  | finite (negative : Bool) (significand : Nat) (exponent : Int)
  | infinite (negative : Bool)
  | notANumber
  deriving DecidableEq

/-- A fraction of natural numbers. -/
structure Ratio where
  numerator : Nat
  denominator : Nat

namespace Ratio

/-- `factor · base ^ exponent`, for an exponent of either sign. -/
def scaled (factor base : Nat) (exponent : Int) : Ratio where
  numerator := factor * Nat.pow base exponent.toNat
  denominator := Nat.pow base (-exponent).toNat

def scale (ratio : Ratio) (base : Nat) (exponent : Int) : Ratio where
  numerator := ratio.numerator * Nat.pow base exponent.toNat
  denominator := ratio.denominator * Nat.pow base (-exponent).toNat

def floor (ratio : Ratio) : Nat :=
  ratio.numerator / ratio.denominator

/-- The nearest integer; a tie goes to the even one. -/
def round (ratio : Ratio) : Nat :=
  let excess := 2 * (ratio.numerator % ratio.denominator)
  if excess < ratio.denominator then ratio.floor
  else if ratio.denominator < excess then ratio.floor + 1
  else ratio.floor + ratio.floor % 2

end Ratio

namespace Binary64

/-- The significands lie below this number. -/
def significandLimit : Nat := 9007199254740992

def minExponent : Int := -1074

def maxExponent : Int := 971

def zero (negative : Bool) : Binary64 :=
  .finite negative 0 minExponent

/-- The smallest exponent with which the integer part of a fraction is a significand. Comparing the
binary lengths of numerator and denominator leaves two candidates. -/
def exponentFor (ratio : Ratio) : Int :=
  let estimate := (ratio.numerator.log2 : Int) - ratio.denominator.log2 - 53
  let exponent := if estimate < minExponent then minExponent else estimate
  if (ratio.scale 2 (-exponent)).floor < significandLimit then exponent else exponent + 1

/-- The number nearest to a fraction. A significand that rounding has carried to the limit is
halved. -/
def nearest (negative : Bool) (ratio : Ratio) : Binary64 :=
  let exponent := exponentFor ratio
  let rounded := (ratio.scale 2 (-exponent)).round
  let (significand, exponent) :=
    if rounded = significandLimit then (rounded / 2, exponent + 1) else (rounded, exponent)
  if maxExponent < exponent then .infinite negative else .finite negative significand exponent

/-- The number nearest to `digits · 10 ^ exponent`. A decimal that is plainly beyond the format on
either side is told by its number of digits. -/
def ofDecimal (negative : Bool) (digits : Nat) (exponent : Int) : Binary64 :=
  let magnitude := ((Nat.toDigits 10 digits).length : Int) + exponent
  if digits = 0 ∨ magnitude < -330 then zero negative
  else if 310 < magnitude then .infinite negative
  else nearest negative (.scaled digits 10 exponent)

/-- Why a number has no integer part. -/
inductive TruncateError where
  | infinite
  | notANumber
  deriving DecidableEq

def TruncateError.message : TruncateError → String
  | .infinite => "cannot convert float infinity to integer"
  | .notANumber => "cannot convert float NaN to integer"

/-- The integer part: the number with its places cut off, which rounds toward zero. -/
def truncate : Binary64 → Except TruncateError Int
  | .finite negative significand exponent =>
      let magnitude : Int := (Ratio.scaled significand 2 exponent).floor
      .ok (if negative then -magnitude else magnitude)
  | .infinite _ => .error .infinite
  | .notANumber => .error .notANumber

end Binary64

end CounterMachine.Text
