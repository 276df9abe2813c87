import StackMachine.Decimal.Binary64

/-!
# Shortest decimals

The decimal with the fewest digits that reads back as a given floating-point number; of several,
the one nearest to the number.

A finite magnitude `m * 2 ^ e` is read back from every real number of an interval around it, which
includes its two ends exactly when `m` is even. Grids of decimals are tried from the coarsest one
that can matter: the first grid of which a neighbour of the number lies in the interval wins.
-/

namespace StackMachine.Decimal

/-- The positive decimal `digits * 10 ^ exponent`. -/
structure Scaled where
  digits : Nat
  exponent : Int
  deriving DecidableEq, Repr

/-- Which of two equally near neighbours is taken. -/
inductive Tie where
  /-- The one with an even last digit. -/
  | toEven
  /-- The greater one. -/
  | up
  deriving DecidableEq, Repr

/-- How many decimal digits a number has. -/
def places (n : Nat) : Nat :=
  (Nat.toDigits 10 n).length

/-- The exponent of the leading digit of the fraction `numerator / denominator`. -/
def leadingExponent (numerator denominator : Nat) : Int :=
  if denominator ≤ numerator then places (numerator / denominator) - 1
  else -(places ((denominator + numerator - 1) / numerator - 1))

/-- The neighbour of `mantissa * 2 ^ exponent` on the grid of multiples of `10 ^ grid` that reads
back as that number, if there is one. All quantities are scaled to integers: `unit` is the distance
of the grid, `value` the number, and `low` and `high` are the ends of the interval. -/
def onGrid (tie : Tie) (mantissa : Nat) (exponent grid : Int) : Option Nat :=
  let quarter := exponent - 2
  let unit := Nat.pow 10 grid.toNat * Nat.pow 2 (-quarter).toNat
  let scale := Nat.pow 2 quarter.toNat * Nat.pow 10 (-grid).toNat
  let value := 4 * mantissa * scale
  let narrow : Bool := mantissa == Magnitude.leastMantissa && Magnitude.leastExponent < exponent
  let low := (4 * mantissa - if narrow then 1 else 2) * scale
  let high := (4 * mantissa + 2) * scale
  let readsBack (n : Nat) : Bool :=
    if mantissa % 2 = 0 then low ≤ n ∧ n ≤ high else low < n ∧ n < high
  let below := value / unit
  let above := below + 1
  let toBelow := value - below * unit
  let toAbove := above * unit - value
  match readsBack (below * unit), readsBack (above * unit) with
  | false, false => none
  | true, false => some below
  | false, true => some above
  | true, true =>
    if toBelow < toAbove then some below
    else if toAbove < toBelow then some above
    else match tie with
      | .up => some above
      | .toEven => some (below + below % 2)

/-- Cuts the zeros at the end of a decimal's digits. -/
def Scaled.trim (d : Scaled) : Scaled :=
  if h : 0 < d.digits ∧ d.digits % 10 = 0 then
    Scaled.trim ⟨d.digits / 10, d.exponent + 1⟩
  else d
termination_by d.digits
decreasing_by
  omega

/-- The shortest decimal of a positive finite number. Seventeen digits always suffice. -/
def shortest (tie : Tie) (mantissa : Nat) (exponent : Int) : Scaled :=
  let leading :=
    leadingExponent (mantissa * Nat.pow 2 exponent.toNat) (Nat.pow 2 (-exponent).toNat)
  let candidate (n : Nat) : Option Scaled :=
    let grid := leading - n
    (onGrid tie mantissa exponent grid).map (⟨·, grid⟩)
  match (List.range 18).findSome? candidate with
  | some d => d.trim
  | none => ⟨mantissa, exponent⟩

end StackMachine.Decimal
