import StackMachine.Decimal.Parse
import StackMachine.Toml.Text

/-!
# Values

The values of a TOML document, and the readers of the scalars that are not strings. Integers fit in
64 bits; floating-point numbers are rounded to the nearest one, and a number without a minus sign
must not be beyond all finite ones; dates are days of the calendar, and fractions of a second keep
nine digits. A date or a time is kept as its text.
-/

namespace StackMachine.Toml

/-- A TOML value. -/
inductive Value where
  | string (value : String)
  | integer (value : Int)
  | float (value : Decimal.Binary64)
  | boolean (value : Bool)
  /-- A date, a time or both, in its standard text. -/
  | moment (text : String)
  | array (items : List Value)
  | table (entries : List (String × Value))

/-! ## Comparing values

Values stand inside lists of values, so that the decision cannot be derived. -/

mutual

/-- Whether two values are the same. -/
def Value.same : Value → Value → Bool
  | .string s, .string t => s == t
  | .integer n, .integer m => n == m
  | .float x, .float y => x == y
  | .boolean a, .boolean b => a == b
  | .moment s, .moment t => s == t
  | .array xs, .array ys => sameItems xs ys
  | .table xs, .table ys => sameEntries xs ys
  | _, _ => false

/-- Whether two lists hold the same values. -/
def sameItems : List Value → List Value → Bool
  | [], [] => true
  | x :: xs, y :: ys => x.same y && sameItems xs ys
  | _, _ => false

/-- Whether two lists hold the same names with the same values. -/
def sameEntries : List (String × Value) → List (String × Value) → Bool
  | [], [] => true
  | (name, x) :: xs, (name', y) :: ys => name == name' && x.same y && sameEntries xs ys
  | _, _ => false

end

mutual

theorem Value.same_iff : ∀ a b : Value, a.same b = true ↔ a = b
  | .string _, b | .integer _, b | .float _, b | .boolean _, b | .moment _, b => by
    cases b <;> simp [Value.same]
  | .array xs, b => by cases b <;> simp [Value.same, sameItems_iff xs]
  | .table xs, b => by cases b <;> simp [Value.same, sameEntries_iff xs]

theorem sameItems_iff : ∀ xs ys : List Value, sameItems xs ys = true ↔ xs = ys
  | [], ys => by cases ys <;> simp [sameItems]
  | x :: xs, ys => by cases ys <;> simp [sameItems, x.same_iff, sameItems_iff xs]

theorem sameEntries_iff : ∀ xs ys : List (String × Value), sameEntries xs ys = true ↔ xs = ys
  | [], ys => by cases ys <;> simp [sameEntries]
  | (name, x) :: xs, ys => by
    cases ys <;> simp [sameEntries, x.same_iff, sameEntries_iff xs, Prod.ext_iff]

end

instance : DecidableEq Value :=
  fun a b => decidable_of_iff _ (a.same_iff b)

/-! ## Numbers -/

/-- Reads digits with single underscores between them. -/
def readDigits (isDigit : Char → Bool) : List Char → Reading (List Char)
  | [] => none
  | c :: s =>
    if isDigit c then
      match s with
      | '_' :: s => prepend c (readDigits isDigit s)
      | d :: s => if isDigit d then prepend c (readDigits isDigit (d :: s)) else some ([c], d :: s)
      | [] => some ([c], [])
    else none

/-- Reads the digits of a decimal integer. A zero stands alone. -/
def readWhole : List Char → Reading (List Char)
  | '0' :: s => some (['0'], s)
  | s => readDigits Char.isDigit s

/-- Reads a sign if there is one. -/
def readSign : List Char → List Char × List Char
  | '-' :: s => (['-'], s)
  | '+' :: s => (['+'], s)
  | s => ([], s)

/-- The number that digits in some base write after `n`. -/
def ofBase (base n : Nat) : List Char → Nat
  | [] => n
  | c :: s => ofBase base (n * base + (Text.hexValue? c).getD 0) s

/-- Reads the digits of an integer in a base other than ten. -/
def readBased (base : Nat) (s : List Char) : Reading Value :=
  let isDigit (c : Char) : Bool := (Text.hexValue? c).any (· < base)
  match readDigits isDigit s with
  | none => none
  | some (digits, rest) =>
    let n := ofBase base 0 digits
    if n ≤ 9223372036854775807 then some (.integer n, rest) else none

/-- Reads an integer. -/
def readInteger : List Char → Reading Value
  | '0' :: 'x' :: s => readBased 16 s
  | '0' :: 'o' :: s => readBased 8 s
  | '0' :: 'b' :: s => readBased 2 s
  | s =>
    let (sign, s) := readSign s
    match readWhole s with
    | none => none
    | some (digits, rest) => (Decimal.integer? (sign ++ digits)).map fun n => (.integer n, rest)

/-- Reads a fraction if there is one. -/
def readFraction : List Char → Reading (List Char)
  | '.' :: s => prepend '.' (readDigits Char.isDigit s)
  | s => some ([], s)

/-- Reads an exponent if there is one. -/
def readExponent : List Char → Reading (List Char)
  | c :: s =>
    if c = 'e' ∨ c = 'E' then
      let (sign, s) := readSign s
      (readDigits Char.isDigit s).map fun (digits, rest) => ('e' :: sign ++ digits, rest)
    else some ([], c :: s)
  | [] => some ([], [])

/-- The value of a floating-point number, which must not be positive and infinite. -/
def floatValue (s : List Char) : Option Value :=
  match Decimal.float? s with
  | some (.number false .infinite) => none
  | number => number.map .float

/-- Reads a floating-point number with a fraction, an exponent or both. -/
def readFloat (s : List Char) : Reading Value :=
  let (sign, s) := readSign s
  match readWhole s with
  | none => none
  | some (whole, s) =>
    match readFraction s with
    | none => none
    | some (fraction, s) =>
      match readExponent s with
      | none => none
      | some (exponent, rest) =>
        if fraction = [] ∧ exponent = [] then none
        else (floatValue (sign ++ whole ++ fraction ++ exponent)).map fun value => (value, rest)

/-- Reads one of the words for values that are infinite or no numbers. -/
def readFloatWord (s : List Char) : Reading Value :=
  let (sign, s) := readSign s
  match s with
  | 'i' :: 'n' :: 'f' :: rest => some (.float (.number (sign = ['-']) .infinite), rest)
  | 'n' :: 'a' :: 'n' :: rest => some (.float .nan, rest)
  | _ => none

/-! ## Dates and times -/

/-- Reads a number of exactly so many digits within bounds, and gives its digits. -/
def readField (count least greatest : Nat) (s : List Char) : Reading (List Char) :=
  let digits := s.take count
  let n := Decimal.ofDigits digits
  if digits.length = count ∧ digits.all Char.isDigit ∧ least ≤ n ∧ n ≤ greatest then
    some (digits, s.drop count)
  else none

/-- Whether a year has a leap day. -/
def isLeapYear (year : Nat) : Bool :=
  year % 4 = 0 && (year % 100 ≠ 0 || year % 400 = 0)

/-- The number of days of a month. -/
def daysOfMonth (year month : Nat) : Nat :=
  if month = 2 then (if isLeapYear year then 29 else 28)
  else if month = 4 ∨ month = 6 ∨ month = 9 ∨ month = 11 then 30
  else 31

/-- Reads a date. -/
def readDate (s : List Char) : Reading (List Char) :=
  match readField 4 0 9999 s with
  | some (year, '-' :: s) =>
    match readField 2 1 12 s with
    | some (month, '-' :: s) =>
      let days := daysOfMonth (Decimal.ofDigits year) (Decimal.ofDigits month)
      (readField 2 1 days s).map fun (day, rest) => (year ++ '-' :: month ++ '-' :: day, rest)
    | _ => none
  | _ => none

/-- The text of a fraction of a second: at most nine digits, without zeros at the end. -/
def secondFraction (digits : List Char) : List Char :=
  match ((digits.take 9).reverse.dropWhile (· == '0')).reverse with
  | [] => []
  | digits => '.' :: digits

/-- Reads a time of the day. -/
def readTime (s : List Char) : Reading (List Char) :=
  match readField 2 0 23 s with
  | some (hour, ':' :: s) =>
    match readField 2 0 59 s with
    | some (minute, ':' :: s) =>
      match readField 2 0 60 s with
      | none => none
      | some (second, rest) =>
        let time := hour ++ ':' :: minute ++ ':' :: second
        match rest with
        | '.' :: s =>
          match s.takeWhile Char.isDigit with
          | [] => none
          | digits => some (time ++ secondFraction digits, s.dropWhile Char.isDigit)
        | rest => some (time, rest)
    | _ => none
  | _ => none

/-- Reads a distance from universal time if there is one. -/
def readOffset : List Char → Reading (List Char)
  | 'Z' :: s => some (['Z'], s)
  | 'z' :: s => some (['Z'], s)
  | c :: s =>
    if c = '+' ∨ c = '-' then
      match readField 2 0 23 s with
      | some (hour, ':' :: s) =>
        (readField 2 0 59 s).map fun (minute, rest) =>
          let none := Decimal.ofDigits (hour ++ minute) = 0
          ((if none then '+' else c) :: hour ++ ':' :: minute, rest)
      | _ => none
    else some ([], c :: s)
  | [] => some ([], [])

/-- Reads a time and its distance from universal time. -/
def readFullTime (s : List Char) : Reading (List Char) :=
  match readTime s with
  | none => none
  | some (time, s) => (readOffset s).map fun (offset, rest) => (time ++ offset, rest)

/-- Whether a time may follow after this character behind a date. -/
def isTimeMark (c : Char) : Bool :=
  c == 'T' || c == 't' || c == ' '

/-- Reads a date, a time or both. After a date and a blank there need not be a time. -/
def readMoment (s : List Char) : Reading Value :=
  match readDate s with
  | none => (readTime s).map fun (time, rest) => (.moment (String.ofList time), rest)
  | some (date, rest) =>
    let alone := (Value.moment (String.ofList date), rest)
    match rest with
    | c :: s =>
      if isTimeMark c then
        match readFullTime s with
        | none => some alone
        | some (time, rest) => some (.moment (String.ofList (date ++ 'T' :: time)), rest)
      else some alone
    | [] => some alone

/-! ## Scalars -/

/-- Reads a date, a time or a number. -/
def readNumber (s : List Char) : Reading Value :=
  readMoment s <|> readFloat s <|> readFloatWord s <|> readInteger s

/-- Reads a scalar. -/
def readScalar (s : List Char) : Reading Value :=
  match s with
  | 't' :: 'r' :: 'u' :: 'e' :: rest => some (.boolean true, rest)
  | 'f' :: 'a' :: 'l' :: 's' :: 'e' :: rest => some (.boolean false, rest)
  | '"' :: _ => (readString s).map fun (text, rest) => (.string (String.ofList text), rest)
  | '\'' :: _ => (readString s).map fun (text, rest) => (.string (String.ofList text), rest)
  | _ => readNumber s

end StackMachine.Toml
