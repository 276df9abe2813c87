import StackMachine.Decimal.Shortest

/-!
# Texts of floating-point numbers

How a shortest decimal is written: positionally, or with a mark and an exponent. A `Layout` holds
the choices that differ from format to format.
-/

namespace StackMachine.Decimal

/-- The choices of a format. -/
structure Layout where
  /-- Which of two equally near shortest decimals is written. -/
  tie : Tie
  /-- Whether a number with this exponent of the leading digit is written positionally. -/
  positional : Int → Bool
  /-- What follows a whole number. -/
  whole : String
  /-- The text of a value that is no number. -/
  nan : String
  /-- The text of an infinite value. -/
  infinite : String

/-- The digits of a natural number. -/
def digitsOf (n : Nat) : List Char :=
  Nat.toDigits 10 n

/-- A decimal written positionally. -/
def Scaled.positional (d : Scaled) (whole : String) : List Char :=
  let digits := digitsOf d.digits
  if 0 ≤ d.exponent then
    digits ++ List.replicate d.exponent.toNat '0' ++ whole.toList
  else
    let after := (-d.exponent).toNat
    let padded := List.replicate (after + 1 - digits.length) '0' ++ digits
    padded.take (padded.length - after) ++ '.' :: padded.drop (padded.length - after)

/-- A decimal written with one digit before the point and an exponent that always has a sign. -/
def Scaled.scientific (d : Scaled) (leading : Int) : List Char :=
  let point := match digitsOf d.digits with
    | first :: second :: rest => first :: '.' :: second :: rest
    | digits => digits
  point ++ 'e' :: (if leading < 0 then '-' else '+') :: digitsOf leading.natAbs

/-- The text of a magnitude. -/
def Layout.magnitude (layout : Layout) : Magnitude → List Char
  | .infinite => layout.infinite.toList
  | .finite 0 _ => '0' :: layout.whole.toList
  | .finite mantissa exponent =>
    let d := shortest layout.tie mantissa exponent
    let leading := d.exponent + places d.digits - 1
    if layout.positional leading then d.positional layout.whole else d.scientific leading

/-- The text of a floating-point number. -/
def Layout.text (layout : Layout) : Binary64 → List Char
  | .nan => layout.nan.toList
  | .number negative magnitude =>
    (if negative then ['-'] else []) ++ layout.magnitude magnitude

end StackMachine.Decimal
