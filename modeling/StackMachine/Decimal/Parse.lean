import StackMachine.Decimal.Binary64

/-!
# Reading numbers

Integers and floating-point numbers that fill a whole text. A floating-point number is rounded
correctly to the nearest one of the format, however many digits are written.
-/

namespace StackMachine.Decimal

/-- The number that digits write behind those of another number. -/
def appendDigits (n : Nat) (digits : List Char) : Nat :=
  digits.foldl (fun n digit => n * 10 + (digit.toNat - '0'.toNat)) n

/-- The number that digits write. -/
def ofDigits (digits : List Char) : Nat :=
  appendDigits 0 digits

/-- Takes a sign off the front of a text: whether it is a minus, and what follows. -/
def splitSign : List Char → Bool × List Char
  | '-' :: s => (true, s)
  | '+' :: s => (false, s)
  | s => (false, s)

/-- The digits of a text that holds digits only, and at least one. -/
def digits? (s : List Char) : Option Nat :=
  if s ≠ [] ∧ s.all Char.isDigit then some (ofDigits s) else none

/-- The integer that a text writes, with or without a sign, if 64 bits can hold it. -/
def integer? (s : List Char) : Option Int :=
  let (negative, unsigned) := splitSign s
  match digits? unsigned with
  | none => none
  | some n =>
    let value : Int := if negative then -n else n
    if -9223372036854775808 ≤ value ∧ value ≤ 9223372036854775807 then some value else none

/-- The magnitude that a word stands for. -/
def word? (s : List Char) : Option (Option Magnitude) :=
  let lower := s.map Char.toLower
  if lower = ['i', 'n', 'f'] ∨ lower = ['i', 'n', 'f', 'i', 'n', 'i', 't', 'y'] then
    some (some .infinite)
  else if lower = ['n', 'a', 'n'] then some none
  else none

/-- The exponent of a number, from its mark on. No mark stands for the exponent zero. -/
def exponent? (s : List Char) : Option Int :=
  match s with
  | [] => some 0
  | c :: s =>
    if c = 'e' ∨ c = 'E' then
      let (negative, unsigned) := splitSign s
      (digits? unsigned).map fun n => if negative then -n else n
    else none

/-- The magnitude that digits with an optional point and an optional exponent write. One side of the
point may be empty. -/
def magnitude? (s : List Char) : Option Magnitude :=
  let whole := s.takeWhile Char.isDigit
  let (fraction, rest) := match s.dropWhile Char.isDigit with
    | '.' :: s => (s.takeWhile Char.isDigit, s.dropWhile Char.isDigit)
    | s => ([], s)
  if whole = [] ∧ fraction = [] then none
  else
    (exponent? rest).map fun exponent =>
      .ofDecimal (ofDigits (whole ++ fraction)) (exponent - fraction.length)

/-- The floating-point number that a text writes: a number or a word in any case, with or without a
sign. -/
def float? (s : List Char) : Option Binary64 :=
  let (negative, unsigned) := splitSign s
  match word? unsigned with
  | some (some magnitude) => some (.number negative magnitude)
  | some none => some .nan
  | none => (magnitude? unsigned).map (.number negative)

end StackMachine.Decimal
