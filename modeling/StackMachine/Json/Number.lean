import StackMachine.Decimal.Parse
import StackMachine.Json.Scan

/-!
# Numbers of JSON texts

A number is read in two stages: its literal, by the grammar, and then its value. A literal without
point and exponent is an integer if 64 bits can hold it; minus zero and everything else is
floating.

The value of a floating literal comes from the digits that fit into an unsigned 64-bit
significand. Digits before the point beyond those count as zeros, digits after the point beyond
those do not count, and the significand is then multiplied or divided by a power of ten.
-/

namespace StackMachine.Json

/-- The parts of a number as they are written. -/
structure Literal where
  negative : Bool
  /-- The digits before the point. -/
  whole : List Char
  /-- The digits after the point, if there is one. -/
  fraction : Option (List Char)
  /-- The sign and the digits of the exponent, if there is one. -/
  exponent : Option (Bool × List Char)
  deriving DecidableEq, Repr

/-- The value of a number. -/
inductive Number where
  | integer (value : Int)
  | floating (value : Decimal.Binary64)
  deriving DecidableEq, Repr

/-! ## The literal -/

/-- The fault of a missing digit: another one where the text ends than before a character. -/
def missingDigit (atEnd : Fault) : List Char → Fault
  | [] => atEnd
  | _ => .grammar .invalidNumber

/-- Reads at least one digit. -/
def readDigits (atEnd : Fault) (s : List Char) : Reading (List Char) :=
  match s.takeWhile Char.isDigit with
  | [] => .error (missingDigit atEnd s)
  | digits => .ok (digits, s.dropWhile Char.isDigit)

/-- Reads the digits before the point. A zero stands alone. -/
def readWhole (atEnd : Fault) (s : List Char) : Reading (List Char) :=
  match readDigits atEnd s with
  | .ok ('0' :: _ :: _, _) => .error (.grammar .invalidNumber)
  | reading => reading

/-- Reads a fraction if there is one. -/
def readFraction (atEnd : Fault) (s : List Char) : Reading (Option (List Char)) :=
  match s with
  | '.' :: s => (readDigits atEnd s).map fun (digits, rest) => (some digits, rest)
  | s => .ok (none, s)

/-- Reads the sign and the digits of an exponent. -/
def readSigned (atEnd : Fault) : List Char → Reading (Bool × List Char)
  | '-' :: s => (readDigits atEnd s).map fun (digits, rest) => ((true, digits), rest)
  | '+' :: s => (readDigits atEnd s).map fun (digits, rest) => ((false, digits), rest)
  | s => (readDigits atEnd s).map fun (digits, rest) => ((false, digits), rest)

/-- Reads an exponent if there is one. -/
def readExponent (atEnd : Fault) (s : List Char) : Reading (Option (Bool × List Char)) :=
  match s with
  | 'e' :: s => (readSigned atEnd s).map fun (signed, rest) => (some signed, rest)
  | 'E' :: s => (readSigned atEnd s).map fun (signed, rest) => (some signed, rest)
  | s => .ok (none, s)

/-- Reads the digits of a number, its fraction and its exponent. -/
def readUnsigned (atEnd : Fault) (negative : Bool) (s : List Char) : Reading Literal :=
  match readWhole atEnd s with
  | .error fault => .error fault
  | .ok (whole, s) =>
    match readFraction atEnd s with
    | .error fault => .error fault
    | .ok (fraction, s) =>
      match readExponent atEnd s with
      | .error fault => .error fault
      | .ok (exponent, s) => .ok (⟨negative, whole, fraction, exponent⟩, s)

/-- Reads the literal of a number. `atEnd` is the fault of a text that ends where a digit must
stand. -/
def readLiteral (atEnd : Fault) (s : List Char) : Reading Literal :=
  match s with
  | '-' :: s => readUnsigned atEnd true s
  | s => readUnsigned atEnd false s

/-! ## The value -/

/-- The greatest significand. -/
def greatestSignificand : Nat := 18446744073709551615

/-- Appends digits to a significand as long as it stays within its bound, and gives the digits that
are left. -/
def extend (significand : Nat) : List Char → Nat × List Char
  | [] => (significand, [])
  | digit :: digits =>
    let next := significand * 10 + (digit.toNat - '0'.toNat)
    if next ≤ greatestSignificand then extend next digits else (significand, digit :: digits)

/-- A magnitude times a power of ten. Powers beyond the greatest one of the format are reached in
several divisions; a product beyond the format is refused. -/
def scale (magnitude : Decimal.Magnitude) (exponent : Int) : Except Fault Decimal.Magnitude :=
  if 308 < exponent then
    if magnitude.isZero then .ok magnitude else .error (.grammar .numberOutOfRange)
  else if 0 ≤ exponent then
    match magnitude.mul (.powerOfTen exponent.toNat) with
    | .infinite => .error (.grammar .numberOutOfRange)
    | product => .ok product
  else if -308 ≤ exponent then
    .ok (magnitude.div (.powerOfTen (-exponent).toNat))
  else if magnitude.isZero then
    .ok magnitude
  else
    scale (magnitude.div (.powerOfTen 308)) (exponent + 308)
termination_by (-exponent).toNat
decreasing_by omega

/-- The exponent that a literal's exponent part adds. -/
def Literal.shift (literal : Literal) : Int :=
  match literal.exponent with
  | none => 0
  | some (negative, digits) =>
    if negative then -(Decimal.ofDigits digits : Int) else Decimal.ofDigits digits

/-- The floating-point value of a literal. -/
def Literal.magnitude (literal : Literal) : Except Fault Decimal.Magnitude :=
  let (whole, dropped) := extend 0 literal.whole
  let fraction := literal.fraction.getD []
  let (significand, ignored) := extend whole fraction
  let exponent := (dropped.length : Int) - (fraction.length - ignored.length)
  scale (.ofNat significand) (exponent + literal.shift)

/-- The value of a literal. -/
def Literal.value (literal : Literal) : Except Fault Number :=
  let (significand, dropped) := extend 0 literal.whole
  if literal.fraction = none ∧ literal.exponent = none ∧ dropped = [] then
    if !literal.negative then .ok (.integer significand)
    else if 0 < significand ∧ significand ≤ 9223372036854775808 then .ok (.integer (-significand))
    else .ok (.floating (.number true (.ofNat significand)))
  else
    literal.magnitude.map fun magnitude => .floating (.number literal.negative magnitude)

/-- Reads a number. -/
def readNumber (s : List Char) : Reading Number :=
  match readLiteral (.ended .inValue) s with
  | .error fault => .error fault
  | .ok (literal, rest) => literal.value.map fun value => (value, rest)

/-- Passes over a number of any size. A text that ends where a digit must stand is an invalid
number here. -/
def skipNumber (s : List Char) : Except Fault (List Char) :=
  (readLiteral (.grammar .invalidNumber) s).map (·.2)

/-! ## Reading takes characters off the front -/

/-- At least one digit is read. -/
theorem length_lt_of_readDigits {atEnd : Fault} {s digits rest : List Char}
    (h : readDigits atEnd s = .ok (digits, rest)) : rest.length < s.length := by
  unfold readDigits at h
  split at h
  · simp at h
  · rename_i taken
    simp only [Except.ok.injEq, Prod.mk.injEq] at h
    have split := List.takeWhile_append_dropWhile (p := Char.isDigit) (l := s)
    rw [← h.2, ← congrArg List.length split, List.length_append]
    have := List.length_pos_iff.mpr taken
    omega

/-- At least one digit stands before the point. -/
theorem length_lt_of_readWhole {atEnd : Fault} {s whole rest : List Char}
    (h : readWhole atEnd s = .ok (whole, rest)) : rest.length < s.length := by
  unfold readWhole at h
  split at h
  · simp at h
  · exact length_lt_of_readDigits h

/-- Changing what is read changes nothing about what is left. -/
theorem eq_ok_of_map_eq_ok {α β : Type} {reading : Reading α} {f : α → β} {value : β}
    {rest : List Char} (h : (reading.map fun (a, rest) => (f a, rest)) = .ok (value, rest)) :
    ∃ a, reading = .ok (a, rest) := by
  cases reading with
  | error fault => simp [Except.map] at h
  | ok pair =>
    simp only [Except.map, Except.ok.injEq, Prod.mk.injEq] at h
    exact ⟨pair.1, by rw [← h.2]⟩

/-- A fraction may be absent. -/
theorem length_le_of_readFraction {atEnd : Fault} {s rest : List Char}
    {fraction : Option (List Char)} (h : readFraction atEnd s = .ok (fraction, rest)) :
    rest.length ≤ s.length := by
  unfold readFraction at h
  split at h
  · obtain ⟨digits, read⟩ := eq_ok_of_map_eq_ok h
    have := length_lt_of_readDigits read
    simp only [List.length_cons]
    omega
  · simp_all

/-- At least one digit stands in an exponent. -/
theorem length_lt_of_readSigned {atEnd : Fault} {s rest : List Char} {signed : Bool × List Char}
    (h : readSigned atEnd s = .ok (signed, rest)) : rest.length < s.length := by
  unfold readSigned at h
  split at h
  all_goals
    obtain ⟨digits, read⟩ := eq_ok_of_map_eq_ok h
    have := length_lt_of_readDigits read
    grind

/-- An exponent may be absent. -/
theorem length_le_of_readExponent {atEnd : Fault} {s rest : List Char}
    {exponent : Option (Bool × List Char)} (h : readExponent atEnd s = .ok (exponent, rest)) :
    rest.length ≤ s.length := by
  unfold readExponent at h
  split at h
  · obtain ⟨signed, read⟩ := eq_ok_of_map_eq_ok h
    have := length_lt_of_readSigned read
    simp only [List.length_cons]
    omega
  · obtain ⟨signed, read⟩ := eq_ok_of_map_eq_ok h
    have := length_lt_of_readSigned read
    simp only [List.length_cons]
    omega
  · simp_all

/-- A literal is read from the front. -/
theorem length_lt_of_readLiteral {atEnd : Fault} {s rest : List Char} {literal : Literal}
    (h : readLiteral atEnd s = .ok (literal, rest)) : rest.length < s.length := by
  have unsigned {negative : Bool} {s : List Char}
      (h : readUnsigned atEnd negative s = .ok (literal, rest)) : rest.length < s.length := by
    unfold readUnsigned at h
    split at h
    · simp at h
    · rename_i readW
      split at h
      · simp at h
      · rename_i readF
        split at h
        · simp at h
        · rename_i readE
          have := length_lt_of_readWhole readW
          have := length_le_of_readFraction readF
          have := length_le_of_readExponent readE
          simp only [Except.ok.injEq, Prod.mk.injEq] at h
          rw [← h.2]
          omega
  unfold readLiteral at h
  split at h
  · have := unsigned h
    simp only [List.length_cons]
    omega
  · exact unsigned h

/-- A number is read from the front. -/
theorem length_lt_of_readNumber {s rest : List Char} {number : Number}
    (h : readNumber s = .ok (number, rest)) : rest.length < s.length := by
  unfold readNumber at h
  split at h
  · simp at h
  · rename_i literal after read
    have := length_lt_of_readLiteral read
    cases value : literal.value with
    | error fault => simp [value, Except.map] at h
    | ok number =>
      simp only [value, Except.map, Except.ok.injEq, Prod.mk.injEq] at h
      rwa [← h.2]

/-- A number is passed over from the front. -/
theorem length_lt_of_skipNumber {s rest : List Char} (h : skipNumber s = .ok rest) :
    rest.length < s.length := by
  unfold skipNumber at h
  cases read : readLiteral (.grammar .invalidNumber) s with
  | error fault => simp [read, Except.map] at h
  | ok pair =>
    have := @length_lt_of_readLiteral _ _ pair.2 pair.1 read
    simp only [read, Except.map, Except.ok.injEq] at h
    rwa [← h]

end StackMachine.Json
