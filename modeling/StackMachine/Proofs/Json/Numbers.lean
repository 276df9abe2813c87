import StackMachine.Proofs.Decimal
import StackMachine.Proofs.Json.Grammar

/-!
# Numbers of the grammar and their readers

A number has no closing character: it is read as far as it goes. What follows one must therefore not
continue it, which is the condition `Stops`; between two tokens it always holds.

A literal has an integer value exactly when it is written as an integer, is not a minus zero, and
64 bits can hold it.
-/

namespace StackMachine.Json

/-! ## The end of a number -/

/-- No number goes on with these characters. -/
def Stops (rest : List Char) : Prop :=
  ∀ c ∈ rest.head?, c.isDigit = false ∧ c ≠ '.' ∧ c ≠ 'e' ∧ c ≠ 'E'

theorem stops_nil : Stops [] := by
  intro c hc
  simp at hc

theorem stops_cons {c : Char} (h : c.isDigit = false ∧ c ≠ '.' ∧ c ≠ 'e' ∧ c ≠ 'E')
    (s : List Char) : Stops (c :: s) := by
  intro d hd
  rw [List.head?_cons, Option.mem_some_iff] at hd
  rwa [← hd]

/-- Blanks do not continue a number. -/
theorem stops_append {a s : List Char} (ha : Blanks a) (hs : Stops s) : Stops (a ++ s) := by
  cases a with
  | nil => exact hs
  | cons c a =>
    have hc := ha c List.mem_cons_self
    simp only [List.mem_cons, List.not_mem_nil, or_false] at hc
    refine stops_cons ?_ (a ++ s)
    rcases hc with rfl | rfl | rfl | rfl <;> decide

/-- An exponent is not mistaken for what may stand before it. -/
theorem ExponentText.head {exponent : Option (Bool × List Char)} {e rest : List Char}
    (h : ExponentText exponent e) (hrest : Stops rest) :
    ∀ c ∈ (e ++ rest).head?, c.isDigit = false ∧ c ≠ '.' := by
  intro c hc
  cases h with
  | absent => exact ⟨(hrest c hc).1, (hrest c hc).2.1⟩
  | unsigned he _ | positive he _ | negative he _ =>
    rw [List.cons_append, List.head?_cons, Option.mem_some_iff] at hc
    subst hc
    rcases he with rfl | rfl <;> decide

/-- A fraction is not mistaken for a digit. -/
theorem FractionText.head {fraction : Option (List Char)} {f rest : List Char}
    (h : FractionText fraction f) (hrest : ∀ c ∈ rest.head?, c.isDigit = false ∧ c ≠ '.') :
    ∀ c ∈ (f ++ rest).head?, c.isDigit = false := by
  intro c hc
  cases h with
  | absent => exact (hrest c hc).1
  | present _ =>
    rw [List.cons_append, List.head?_cons, Option.mem_some_iff] at hc
    subst hc
    rfl

/-! ## Literals -/

section Literals

variable (atEnd : Fault) {rest : List Char}

theorem readDigits_of_digits {digits : List Char} (h : Digits digits)
    (hrest : ∀ c ∈ rest.head?, c.isDigit = false) :
    readDigits atEnd (digits ++ rest) = .ok (digits, rest) := by
  have hnone : rest.takeWhile Char.isDigit = [] ∧ rest.dropWhile Char.isDigit = rest := by
    cases rest with
    | nil => exact ⟨rfl, rfl⟩
    | cons c rest => simp [hrest c (by simp)]
  have htake : (digits ++ rest).takeWhile Char.isDigit = digits := by
    rw [List.takeWhile_append_of_pos h.2, hnone.1, List.append_nil]
  have hdrop : (digits ++ rest).dropWhile Char.isDigit = rest := by
    rw [List.dropWhile_append_of_pos h.2, hnone.2]
  unfold readDigits
  rw [htake, hdrop]
  obtain ⟨c, digits', rfl⟩ := List.exists_cons_of_ne_nil h.1
  rfl

theorem readWhole_of_wholeText {whole : List Char} (h : WholeText whole)
    (hrest : ∀ c ∈ rest.head?, c.isDigit = false) :
    readWhole atEnd (whole ++ rest) = .ok (whole, rest) := by
  obtain ⟨hdigits, hzero⟩ := h
  rw [readWhole, readDigits_of_digits atEnd hdigits hrest]
  split
  · rename_i c digits rest' heq
    rw [Except.ok.injEq, Prod.mk.injEq] at heq
    have := hzero (by rw [heq.1, List.head?_cons])
    simp [heq.1] at this
  · rfl

theorem readFraction_of_fractionText {fraction : Option (List Char)} {f : List Char}
    (h : FractionText fraction f) (hrest : ∀ c ∈ rest.head?, c.isDigit = false ∧ c ≠ '.') :
    readFraction atEnd (f ++ rest) = .ok (fraction, rest) := by
  cases h with
  | absent =>
    rw [List.nil_append]
    unfold readFraction
    split
    · exact absurd rfl (hrest '.' rfl).2
    · rfl
  | present hdigits =>
    rw [List.cons_append, readFraction,
      readDigits_of_digits atEnd hdigits fun c hc => (hrest c hc).1]
    rfl

/-- Digits that follow the letter of an exponent are not mistaken for its sign. -/
theorem readSigned_of_digits {digits : List Char} (h : Digits digits)
    (hrest : ∀ c ∈ rest.head?, c.isDigit = false) :
    readSigned atEnd (digits ++ rest) = .ok ((false, digits), rest) := by
  have hread := readDigits_of_digits atEnd h hrest
  obtain ⟨c, digits', rfl⟩ := List.exists_cons_of_ne_nil h.1
  have hc : c.isDigit = true := h.2 c List.mem_cons_self
  rw [List.cons_append] at hread ⊢
  unfold readSigned
  split
  · simp_all
  · simp_all
  · rw [hread]
    rfl

theorem readExponent_of_exponentText {exponent : Option (Bool × List Char)} {e : List Char}
    (h : ExponentText exponent e) (hrest : Stops rest) :
    readExponent atEnd (e ++ rest) = .ok (exponent, rest) := by
  have hdigit : ∀ c ∈ rest.head?, c.isDigit = false := fun c hc => (hrest c hc).1
  cases h with
  | absent =>
    rw [List.nil_append]
    unfold readExponent
    split
    · exact absurd rfl (hrest 'e' rfl).2.2.1
    · exact absurd rfl (hrest 'E' rfl).2.2.2
    · rfl
  | unsigned he hdigits =>
    have hread := readSigned_of_digits atEnd hdigits hdigit
    rcases he with rfl | rfl <;> rw [List.cons_append, readExponent, hread] <;> rfl
  | positive he hdigits | negative he hdigits =>
    have hread := readDigits_of_digits atEnd hdigits hdigit
    rcases he with rfl | rfl <;>
      rw [List.cons_append, List.cons_append, readExponent, readSigned, hread] <;> rfl

/-- Reading the text of a literal gives the literal. -/
theorem readLiteral_of_numberText {literal : Literal} {text : List Char}
    (h : NumberText literal text) (hrest : Stops rest) :
    readLiteral atEnd (text ++ rest) = .ok (literal, rest) := by
  cases h with
  | @mk negative whole fraction exponent f e hw hf he =>
    have hexponent := he.head hrest
    have hfraction := hf.head hexponent
    have hunsigned : readUnsigned atEnd negative (whole ++ (f ++ (e ++ rest))) =
        .ok (⟨negative, whole, fraction, exponent⟩, rest) := by
      simp only [readUnsigned, readWhole_of_wholeText atEnd hw hfraction,
        readFraction_of_fractionText atEnd hf hexponent,
        readExponent_of_exponentText atEnd he hrest]
    simp only [List.append_assoc]
    cases negative with
    | true => exact hunsigned
    | false =>
      obtain ⟨c, whole', rfl⟩ := List.exists_cons_of_ne_nil hw.1.1
      have hc : c.isDigit = true := hw.1.2 c List.mem_cons_self
      unfold readLiteral
      split
      · simp_all
      · exact hunsigned

end Literals

/-- A number starts with its sign or a digit. -/
theorem NumberText.start {literal : Literal} {text : List Char} (h : NumberText literal text) :
    ∃ c s, text = c :: s ∧ (c = '-' ∨ c.isDigit = true) := by
  cases h with
  | @mk negative whole fraction exponent f e hw hf he =>
    cases negative with
    | true => exact ⟨'-', _, rfl, Or.inl rfl⟩
    | false =>
      obtain ⟨c, whole', rfl⟩ := List.exists_cons_of_ne_nil hw.1.1
      exact ⟨c, _, rfl, Or.inr (hw.1.2 c List.mem_cons_self)⟩

/-- The start of a number is none of the other characters. -/
theorem ne_of_numberStart {c d : Char} (hc : c = '-' ∨ c.isDigit = true)
    (hd : d ≠ '-' ∧ d.isDigit = false) : c ≠ d := by
  rintro rfl
  rcases hc with hc | hc
  · exact hd.1 hc
  · rw [hd.2] at hc
    exact Bool.false_ne_true hc

theorem NumberText.wholeText {literal : Literal} {text : List Char} (h : NumberText literal text) :
    WholeText literal.whole := by
  cases h with
  | mk hw _ _ => exact hw

theorem readNumber_of_numberText {literal : Literal} {text rest : List Char}
    (h : NumberText literal text) (hrest : Stops rest) :
    readNumber (text ++ rest) = literal.value.map (·, rest) := by
  rw [readNumber, readLiteral_of_numberText _ h hrest]

theorem skipNumber_of_numberText {literal : Literal} {text rest : List Char}
    (h : NumberText literal text) (hrest : Stops rest) :
    skipNumber (text ++ rest) = .ok rest := by
  rw [skipNumber, readLiteral_of_numberText _ h hrest]
  rfl

/-! ## Integers -/

/-- A literal that writes an integer: no fraction, no exponent, and not a minus zero. -/
def Literal.IsInteger (literal : Literal) (n : Int) : Prop :=
  literal.fraction = none ∧ literal.exponent = none ∧
    ¬ (literal.negative = true ∧ literal.whole = ['0']) ∧
    n = if literal.negative then -(Decimal.ofDigits literal.whole : Int)
      else Decimal.ofDigits literal.whole

/-- A significand takes all digits or, where they are too many for it, leaves some. -/
theorem extend_cases (n : Nat) (digits : List Char) (hn : n ≤ greatestSignificand) :
    (Decimal.appendDigits n digits ≤ greatestSignificand ∧
      extend n digits = (Decimal.appendDigits n digits, [])) ∨
    (greatestSignificand < Decimal.appendDigits n digits ∧ (extend n digits).2 ≠ []) := by
  induction digits generalizing n with
  | nil => exact Or.inl ⟨hn, rfl⟩
  | cons digit digits ih =>
    rw [extend]
    by_cases hnext : n * 10 + (digit.toNat - '0'.toNat) ≤ greatestSignificand
    · rw [if_pos hnext]
      exact ih _ hnext
    · rw [if_neg hnext]
      refine Or.inr ⟨?_, by simp⟩
      have := Decimal.le_appendDigits (n * 10 + (digit.toNat - '0'.toNat)) digits
      rw [Decimal.appendDigits, List.foldl_cons]
      rw [Decimal.appendDigits] at this
      omega

/-- Among digits before a point only the single zero has the value zero. -/
theorem eq_zero_of_ofDigits_eq_zero {whole : List Char} (h : WholeText whole)
    (hzero : Decimal.ofDigits whole = 0) : whole = ['0'] := by
  obtain ⟨⟨hne, hdigits⟩, hleading⟩ := h
  obtain ⟨c, whole, rfl⟩ := List.exists_cons_of_ne_nil hne
  have hdigit : c.isDigit = true := hdigits c List.mem_cons_self
  refine hleading ?_
  have hle := Decimal.le_appendDigits (0 * 10 + (c.toNat - '0'.toNat)) whole
  have hvalue : Decimal.appendDigits (0 * 10 + (c.toNat - '0'.toNat)) whole =
      Decimal.ofDigits (c :: whole) := rfl
  rw [hvalue, hzero] at hle
  simp only [Char.isDigit, Bool.and_eq_true, decide_eq_true_eq] at hdigit
  have hc : c = '0' := by
    rw [← Char.toNat_inj]
    have hge : '0'.toNat ≤ c.toNat := hdigit.1
    omega
  rw [hc, List.head?_cons]

/-- A literal whose digits are too many for a significand, or that has a point or an exponent, has
no integer value. -/
theorem value_ne_integer {literal : Literal} {n : Int}
    (h : ¬ (literal.fraction = none ∧ literal.exponent = none ∧ (extend 0 literal.whole).2 = [])) :
    literal.value ≠ .ok (.integer n) := by
  simp only [Literal.value, if_neg h]
  cases literal.magnitude with
  | error fault => simp [Except.map]
  | ok magnitude => simp [Except.map]

/-- A literal has an integer value exactly if it writes that integer and 64 bits can hold it. -/
theorem value_eq_integer_iff {literal : Literal} (hw : WholeText literal.whole) {n : Int}
    (hn : -9223372036854775808 ≤ n ∧ n ≤ 18446744073709551615) :
    literal.value = .ok (.integer n) ↔ literal.IsInteger n := by
  by_cases hplain : ¬ (literal.fraction = none ∧ literal.exponent = none)
  · refine iff_of_false (value_ne_integer fun h => hplain ⟨h.1, h.2.1⟩) ?_
    rintro ⟨hfraction, hexponent, -⟩
    exact hplain ⟨hfraction, hexponent⟩
  obtain ⟨hfraction, hexponent⟩ := Decidable.not_not.mp hplain
  rcases extend_cases 0 literal.whole (Nat.zero_le _) with ⟨hle, hextend⟩ | ⟨hlt, hdropped⟩
  · have hvalue : Decimal.appendDigits 0 literal.whole = Decimal.ofDigits literal.whole := rfl
    rw [hvalue] at hle hextend
    rw [Literal.value, Literal.IsInteger, hextend]
    simp only [hfraction, hexponent, true_and, if_true]
    cases hsign : literal.negative with
    | false => simp [eq_comm]
    | true =>
      have hzero : Decimal.ofDigits literal.whole = 0 ↔ literal.whole = ['0'] := by
        constructor
        · exact eq_zero_of_ofDigits_eq_zero hw
        · intro h
          rw [h]
          rfl
      simp only [Bool.not_true, Bool.false_eq_true, if_false, true_and, if_true, ← hzero]
      by_cases hsmall : 0 < Decimal.ofDigits literal.whole ∧
          Decimal.ofDigits literal.whole ≤ 9223372036854775808
      · rw [if_pos hsmall, Except.ok.injEq, Number.integer.injEq]
        omega
      · rw [if_neg hsmall, Except.ok.injEq]
        simp only [reduceCtorEq, false_iff]
        omega
  · -- more digits than a significand takes write a number beyond `n`
    refine iff_of_false (value_ne_integer fun h => hdropped h.2.2) ?_
    rintro ⟨-, -, -, hvalue⟩
    have hbound : greatestSignificand = 18446744073709551615 := rfl
    have hdigits : Decimal.appendDigits 0 literal.whole = Decimal.ofDigits literal.whole := rfl
    rw [hbound, hdigits] at hlt
    split at hvalue <;> omega

end StackMachine.Json
