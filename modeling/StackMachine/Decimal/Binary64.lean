/-!
# Binary floating-point numbers

The numbers of the 64-bit binary format as exact dyadic fractions, and rounding to them. All
arithmetic is on natural numbers: an operation forms the exact result as a fraction and rounds it
once, to the nearest number of the format, ties going to the even one.
-/

namespace StackMachine.Decimal

/-- The absolute value of a floating-point number. -/
inductive Magnitude where
  /-- The value `mantissa * 2 ^ exponent`. The exponent is at least `-1074`, and the mantissa has 53
  binary digits unless the exponent is the least one. -/
  | finite (mantissa : Nat) (exponent : Int)
  /-- Beyond every finite number. -/
  | infinite
  deriving DecidableEq, Repr

/-- A floating-point number. -/
inductive Binary64 where
  | number (negative : Bool) (magnitude : Magnitude)
  | nan
  deriving DecidableEq, Repr

namespace Magnitude

/-- The least exponent of the format. -/
def leastExponent : Int := -1074

/-- The greatest exponent of the format. -/
def greatestExponent : Int := 971

/-- The least mantissa with 53 binary digits. -/
def leastMantissa : Nat := 4503599627370496

/-- The quotient of two natural numbers rounded to the nearest one, a half going to the even one. -/
def divideToNearest (numerator denominator : Nat) : Nat :=
  let quotient := numerator / denominator
  let twice := 2 * (numerator % denominator)
  if twice < denominator then quotient
  else if denominator < twice then quotient + 1
  else quotient + quotient % 2

/-- The fraction `numerator / denominator` over `2 ^ exponent`, as a numerator and a denominator. -/
def unscale (numerator denominator : Nat) (exponent : Int) : Nat × Nat :=
  (numerator * Nat.pow 2 (-exponent).toNat, denominator * Nat.pow 2 exponent.toNat)

/-- The exponent of the number nearest to a positive fraction, before it is rounded. -/
def exponentOf (numerator denominator : Nat) : Int :=
  let guess := max ((numerator.log2 : Int) - denominator.log2 - 53) leastExponent
  let (n, d) := unscale numerator denominator guess
  if n / d < 2 * leastMantissa then guess else guess + 1

/-- The number of the format nearest to a fraction with a positive denominator. -/
def nearest (numerator denominator : Nat) : Magnitude :=
  if numerator = 0 then finite 0 leastExponent
  else
    let exponent := exponentOf numerator denominator
    let (n, d) := unscale numerator denominator exponent
    let mantissa := divideToNearest n d
    if mantissa = 2 * leastMantissa then
      if exponent < greatestExponent then finite leastMantissa (exponent + 1) else infinite
    else if exponent ≤ greatestExponent then finite mantissa exponent
    else infinite

/-- The number nearest to a natural number. -/
def ofNat (n : Nat) : Magnitude :=
  nearest n 1

/-- The number nearest to `n * 10 ^ exponent`. Far outside the range of the format the power is not
formed. -/
def ofDecimal (n : Nat) (exponent : Int) : Magnitude :=
  let places : Int := (Nat.toDigits 10 n).length
  if n = 0 then finite 0 leastExponent
  else if 400 < exponent + places then infinite
  else if exponent + places < -400 then finite 0 leastExponent
  else nearest (n * Nat.pow 10 exponent.toNat) (Nat.pow 10 (-exponent).toNat)

/-- The number nearest to `10 ^ n`. -/
def powerOfTen (n : Nat) : Magnitude :=
  ofNat (Nat.pow 10 n)

/-- The product. -/
def mul : Magnitude → Magnitude → Magnitude
  | finite a d, finite b e =>
    nearest (a * b * Nat.pow 2 (d + e).toNat) (Nat.pow 2 (-(d + e)).toNat)
  | _, _ => infinite

/-- The quotient by a number other than zero. -/
def div : Magnitude → Magnitude → Magnitude
  | finite a d, finite b e =>
    nearest (a * Nat.pow 2 (d - e).toNat) (b * Nat.pow 2 (e - d).toNat)
  | finite _ _, infinite => finite 0 leastExponent
  | infinite, _ => infinite

/-- Whether the magnitude is zero. -/
def isZero : Magnitude → Bool
  | finite mantissa _ => mantissa == 0
  | infinite => false

end Magnitude

end StackMachine.Decimal
