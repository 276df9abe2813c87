import StackMachine.Proofs.Json.Passing

/-!
# Reading a longer text

A reader that succeeds has not looked beyond what it leaves: from a longer text it reads the same
and leaves more. Only a number that ends with the text is an exception, since what is appended may
continue it. There the statements ask for the condition `Stops` of Numbers; every closing bracket
discharges it.
-/

namespace StackMachine.Json

variable {s rest u : List Char}

/-- What is made of a reading that goes on from a longer text goes on from it, too. -/
theorem map_append_of_ok {α β : Type} {reading longer : Reading α} {f : α → β} {b : β}
    (h : (reading.map fun (a, rest) => (f a, rest)) = .ok (b, rest))
    (hlonger : ∀ a, reading = .ok (a, rest) → longer = .ok (a, rest ++ u)) :
    (longer.map fun (a, rest) => (f a, rest)) = .ok (b, rest ++ u) := by
  obtain ⟨a, ha⟩ := eq_ok_of_map_eq_ok h
  rw [ha, Except.map, Except.ok.injEq, Prod.mk.injEq] at h
  rw [hlonger a ha, ← h.1]
  rfl

/-! ## Blanks and words -/

theorem skipBlanks_append_of_cons {c : Char} (h : skipBlanks s = c :: rest) (u : List Char) :
    skipBlanks (s ++ u) = c :: (rest ++ u) := by
  rw [skipBlanks, List.dropWhile_append, ← skipBlanks, h]
  rfl

theorem readWord_append_of_ok {word : List Char} (h : readWord word s = .ok rest)
    (u : List Char) : readWord word (s ++ u) = .ok (rest ++ u) := by
  fun_induction readWord word s with
  | case1 s =>
    rw [Except.ok.injEq] at h
    rw [readWord, h]
  | case2 => simp at h
  | case3 w word s ih => rw [List.cons_append, readWord, if_pos rfl, ih h]
  | case4 => simp at h

/-! ## Strings -/

theorem readHex_append_of_ok {n : Nat} (h : readHex s = .ok (n, rest)) (u : List Char) :
    readHex (s ++ u) = .ok (n, rest ++ u) := by
  unfold readHex at h
  split at h
  · rename_i a b c d after
    rw [List.cons_append, List.cons_append, List.cons_append, List.cons_append, readHex]
    split at h
    · simp_all
    · simp at h
  · split at h <;> simp at h

theorem readLowSurrogate_append_of_ok {high : Nat} {c : Char}
    (h : readLowSurrogate high s = .ok (c, rest)) (u : List Char) :
    readLowSurrogate high (s ++ u) = .ok (c, rest ++ u) := by
  unfold readLowSurrogate at h
  split at h
  · simp at h
  · simp at h
  · rename_i after
    split at h
    · simp at h
    · rename_i hhex
      simp only [List.cons_append, readLowSurrogate, readHex_append_of_ok hhex]
      split at h
      · simp_all
      · simp at h
  · simp at h

theorem readNumbered_append_of_ok {c : Char} (h : readNumbered s = .ok (c, rest))
    (u : List Char) : readNumbered (s ++ u) = .ok (c, rest ++ u) := by
  unfold readNumbered at h
  split at h
  · simp at h
  · rename_i hhex
    rw [readNumbered, readHex_append_of_ok hhex]
    split at h
    · simp at h
    · rename_i hlow
      split at h
      · rename_i hhigh
        simp only [hlow, hhigh, Bool.false_eq_true, if_false, if_true]
        exact readLowSurrogate_append_of_ok h u
      · simp_all

theorem readEscape_append_of_ok {c : Char} (h : readEscape s = .ok (c, rest)) (u : List Char) :
    readEscape (s ++ u) = .ok (c, rest ++ u) := by
  unfold readEscape at h
  split at h
  · simp at h
  · rw [List.cons_append, readEscape, readNumbered_append_of_ok h]
  · rename_i d after hu
    rw [List.cons_append, readEscape]
    · split at h <;> simp_all
    · simpa using hu

theorem skipEscape_append_of_ok (h : skipEscape s = .ok rest) (u : List Char) :
    skipEscape (s ++ u) = .ok (rest ++ u) := by
  unfold skipEscape at h
  split at h
  · simp at h
  · rename_i after
    cases hhex : readHex after with
    | error fault => simp [hhex, Except.map] at h
    | ok pair =>
      simp only [hhex, Except.map, Except.ok.injEq] at h
      rw [List.cons_append, skipEscape, readHex_append_of_ok hhex, ← h]
      rfl
  · rename_i d after hu
    rw [List.cons_append, skipEscape]
    · split at h <;> simp_all
    · simpa using hu

theorem readString_append_of_ok {text : List Char} (h : readString s = .ok (text, rest))
    (u : List Char) : readString (s ++ u) = .ok (text, rest ++ u) := by
  fun_induction readString s generalizing text with
  | case1 => simp at h
  | case2 s =>
    rw [List.cons_append, readString]
    simp_all
  | case3 => simp at h
  | case4 s c after hescape ih =>
    rw [List.cons_append, readString_of_escape (readEscape_append_of_ok hescape u)]
    exact map_append_of_ok h fun text hmore => ih hmore
  | case5 => simp at h
  | case6 c s hquote hslash hlow ih =>
    rw [List.cons_append, readString_of_plain (Char.not_lt.mp hlow) (by simpa using hquote)
      (by simpa using hslash)]
    exact map_append_of_ok h fun text hmore => ih hmore

theorem skipString_append_of_ok (h : skipString s = .ok rest) (u : List Char) :
    skipString (s ++ u) = .ok (rest ++ u) := by
  fun_induction skipString s with
  | case1 => simp at h
  | case2 s =>
    rw [List.cons_append, skipString]
    simp_all
  | case3 => simp at h
  | case4 s after hescape ih =>
    have hescape' := skipEscape_append_of_ok hescape u
    rw [List.cons_append, skipString]
    split <;> simp_all
  | case5 => simp at h
  | case6 c s hquote hslash hlow ih =>
    rw [List.cons_append, skipString, if_neg hlow, ih h]
    · simpa using hquote
    · simpa using hslash

/-! ## Numbers -/

/-- Digits are read up to the first character that is none. -/
theorem digits_of_readDigits {atEnd : Fault} {digits : List Char}
    (h : readDigits atEnd s = .ok (digits, rest)) :
    Digits digits ∧ s = digits ++ rest ∧ ∀ c ∈ rest.head?, c.isDigit = false := by
  unfold readDigits at h
  split at h
  · simp at h
  · rename_i hne
    rw [Except.ok.injEq, Prod.mk.injEq] at h
    obtain ⟨rfl, rfl⟩ := h
    refine ⟨⟨hne, ?_⟩, List.takeWhile_append_dropWhile.symm, ?_⟩
    · exact List.all_eq_true.mp List.all_takeWhile
    · intro c hc
      have := List.head?_dropWhile_not Char.isDigit s
      simp_all

section Literals

variable {atEnd : Fault}

theorem readDigits_append_of_ok {digits : List Char}
    (h : readDigits atEnd s = .ok (digits, rest)) (hu : rest = [] → Stops u) :
    readDigits atEnd (s ++ u) = .ok (digits, rest ++ u) := by
  obtain ⟨hdigits, rfl, hrest⟩ := digits_of_readDigits h
  rw [List.append_assoc]
  refine readDigits_of_digits atEnd hdigits fun c hc => ?_
  cases rest with
  | nil => exact (hu rfl c hc).1
  | cons d after => exact hrest c hc

theorem readWhole_append_of_ok {whole : List Char}
    (h : readWhole atEnd s = .ok (whole, rest)) (hu : rest = [] → Stops u) :
    readWhole atEnd (s ++ u) = .ok (whole, rest ++ u) := by
  unfold readWhole at h
  split at h
  · simp at h
  · rename_i hzero
    rw [readWhole, readDigits_append_of_ok h hu]
    split
    · rename_i heq
      rw [Except.ok.injEq, Prod.mk.injEq] at heq
      exact absurd (by rw [h, heq.1]) (hzero _ _ rest)
    · rfl

theorem readFraction_append_of_ok {fraction : Option (List Char)}
    (h : readFraction atEnd s = .ok (fraction, rest)) (hu : rest = [] → Stops u) :
    readFraction atEnd (s ++ u) = .ok (fraction, rest ++ u) := by
  unfold readFraction at h
  split at h
  · rw [List.cons_append, readFraction]
    exact map_append_of_ok h fun digits hread => readDigits_append_of_ok hread hu
  · rename_i hpoint
    rw [Except.ok.injEq, Prod.mk.injEq] at h
    obtain ⟨rfl, rfl⟩ := h
    unfold readFraction
    split
    · rename_i after heq
      cases s with
      | nil =>
        rw [List.nil_append] at heq
        exact absurd rfl (hu rfl '.' (by rw [heq]; rfl)).2.1
      | cons c s => simp_all
    · rfl

theorem readSigned_append_of_ok {signed : Bool × List Char}
    (h : readSigned atEnd s = .ok (signed, rest)) (hu : rest = [] → Stops u) :
    readSigned atEnd (s ++ u) = .ok (signed, rest ++ u) := by
  unfold readSigned at h
  split at h
  · rw [List.cons_append, readSigned]
    exact map_append_of_ok h fun digits hread => readDigits_append_of_ok hread hu
  · rw [List.cons_append, readSigned]
    exact map_append_of_ok h fun digits hread => readDigits_append_of_ok hread hu
  · rename_i hminus hplus
    obtain ⟨digits, hread⟩ := eq_ok_of_map_eq_ok h
    cases s with
    | nil => simp [readDigits] at hread
    | cons c s =>
      unfold readSigned
      split
      · simp_all
      · simp_all
      · exact map_append_of_ok h fun digits hread => readDigits_append_of_ok hread hu

theorem readExponent_append_of_ok {exponent : Option (Bool × List Char)}
    (h : readExponent atEnd s = .ok (exponent, rest)) (hu : rest = [] → Stops u) :
    readExponent atEnd (s ++ u) = .ok (exponent, rest ++ u) := by
  unfold readExponent at h
  split at h
  · rw [List.cons_append, readExponent]
    exact map_append_of_ok h fun signed hread => readSigned_append_of_ok hread hu
  · rw [List.cons_append, readExponent]
    exact map_append_of_ok h fun signed hread => readSigned_append_of_ok hread hu
  · rw [Except.ok.injEq, Prod.mk.injEq] at h
    obtain ⟨rfl, rfl⟩ := h
    cases s with
    | nil =>
      have hstops := hu rfl
      rw [List.nil_append]
      unfold readExponent
      split
      · exact absurd rfl (hstops 'e' rfl).2.2.1
      · exact absurd rfl (hstops 'E' rfl).2.2.2
      · rfl
    | cons c s =>
      unfold readExponent
      split <;> simp_all

theorem readUnsigned_append_of_ok {negative : Bool} {literal : Literal}
    (h : readUnsigned atEnd negative s = .ok (literal, rest)) (hu : rest = [] → Stops u) :
    readUnsigned atEnd negative (s ++ u) = .ok (literal, rest ++ u) := by
  unfold readUnsigned at h
  split at h
  · simp at h
  · rename_i hwhole
    split at h
    · simp at h
    · rename_i hfraction
      split at h
      · simp at h
      · rename_i hexponent
        rw [Except.ok.injEq, Prod.mk.injEq] at h
        obtain ⟨rfl, rfl⟩ := h
        -- a part that leaves nothing leaves nothing for the parts behind it
        have hbehind := length_le_of_readExponent hexponent
        have hbetween := length_le_of_readFraction hfraction
        have hnil : ∀ {a b : List Char}, a.length ≤ b.length → b = [] → a = [] := by
          intro a b hle hb
          rw [hb] at hle
          exact List.eq_nil_of_length_eq_zero (Nat.le_zero.mp hle)
        simp only [readUnsigned,
          readWhole_append_of_ok hwhole fun h => hu (hnil hbehind (hnil hbetween h)),
          readFraction_append_of_ok hfraction fun h => hu (hnil hbehind h),
          readExponent_append_of_ok hexponent hu]

theorem readLiteral_append_of_ok {literal : Literal}
    (h : readLiteral atEnd s = .ok (literal, rest)) (hu : rest = [] → Stops u) :
    readLiteral atEnd (s ++ u) = .ok (literal, rest ++ u) := by
  have hpos := length_lt_of_readLiteral h
  unfold readLiteral at h
  split at h
  · rw [List.cons_append, readLiteral, readUnsigned_append_of_ok h hu]
  · rename_i hminus
    cases s with
    | nil => simp at hpos
    | cons c s =>
      unfold readLiteral
      split
      · simp_all
      · exact readUnsigned_append_of_ok h hu

end Literals

theorem readNumber_append_of_ok {number : Number} (h : readNumber s = .ok (number, rest))
    (hu : rest = [] → Stops u) : readNumber (s ++ u) = .ok (number, rest ++ u) := by
  unfold readNumber at h
  split at h
  · simp at h
  · rename_i literal after hread
    cases hvalue : literal.value with
    | error fault => simp [hvalue, Except.map] at h
    | ok value =>
      simp only [hvalue, Except.map, Except.ok.injEq, Prod.mk.injEq] at h
      obtain ⟨rfl, rfl⟩ := h
      simp only [readNumber, readLiteral_append_of_ok hread hu, hvalue, Except.map]

theorem skipNumber_append_of_ok (h : skipNumber s = .ok rest) (hu : rest = [] → Stops u) :
    skipNumber (s ++ u) = .ok (rest ++ u) := by
  unfold skipNumber at h
  cases hread : readLiteral (.grammar .invalidNumber) s with
  | error fault => simp [hread, Except.map] at h
  | ok pair =>
    simp only [hread, Except.map, Except.ok.injEq] at h
    subst h
    rw [skipNumber, readLiteral_append_of_ok hread hu]
    rfl

/-! ## Values that are passed over -/

theorem readColon_append_of_ok (h : readColon s = .ok rest) (u : List Char) :
    readColon (s ++ u) = .ok (rest ++ u) := by
  unfold readColon at h
  split at h
  · simp at h
  · rename_i after hblanks
    rw [readColon, skipBlanks_append_of_cons hblanks]
    simp_all
  · simp at h

theorem skipKey_append_of_ok (h : skipKey s = .ok rest) (u : List Char) :
    skipKey (s ++ u) = .ok (rest ++ u) := by
  unfold skipKey at h
  split at h
  · simp at h
  · rename_i after hblanks
    rw [skipKey, skipBlanks_append_of_cons hblanks]
    split at h
    · simp at h
    · rename_i hskip
      simp only [skipString_append_of_ok hskip]
      exact readColon_append_of_ok h u
  · simp at h

theorem Bracket.skipLead_append_of_ok {bracket : Bracket} (h : bracket.skipLead s = .ok rest)
    (u : List Char) : bracket.skipLead (s ++ u) = .ok (rest ++ u) := by
  cases bracket with
  | list =>
    obtain rfl : s = rest := Except.ok.inj h
    rfl
  | object => exact skipKey_append_of_ok h u

/-- A resumption that leaves more. -/
def Resumption.append (u : List Char) : Resumption → Resumption
  | complete rest => complete (rest ++ u)
  | value brackets rest => value brackets (rest ++ u)

theorem map_skipLead_append_of_ok {bracket : Bracket} {brackets : List Bracket}
    {resumption : Resumption} (h : (bracket.skipLead s).map (.value brackets) = .ok resumption)
    (u : List Char) :
    (bracket.skipLead (s ++ u)).map (.value brackets) = .ok (resumption.append u) := by
  cases hlead : bracket.skipLead s with
  | error fault => simp [hlead, Except.map] at h
  | ok after =>
    rw [hlead] at h
    rw [bracket.skipLead_append_of_ok hlead, ← Except.ok.inj h]
    rfl

theorem resume_append_of_ok {brackets : List Bracket} {resumption : Resumption}
    (h : resume brackets s = .ok resumption) (u : List Char) :
    resume brackets (s ++ u) = .ok (resumption.append u) := by
  induction brackets generalizing s with
  | nil =>
    obtain rfl : .complete s = resumption := Except.ok.inj h
    rfl
  | cons bracket brackets ih =>
    unfold resume at h
    split at h
    · simp at h
    · rename_i c after hblanks
      rw [resume, skipBlanks_append_of_cons hblanks]
      dsimp only
      split at h
      · rename_i hcomma
        rw [if_pos hcomma]
        exact map_skipLead_append_of_ok h u
      · rename_i hcomma
        rw [if_neg hcomma]
        split at h
        · rename_i hclosing
          rw [if_pos hclosing]
          exact ih h
        · simp at h

theorem enter_append_of_ok {bracket : Bracket} {brackets : List Bracket}
    {resumption : Resumption} (h : enter bracket brackets s = .ok resumption) (u : List Char) :
    enter bracket brackets (s ++ u) = .ok (resumption.append u) := by
  unfold enter at h
  split at h
  · simp at h
  · rename_i c after hblanks
    rw [enter, skipBlanks_append_of_cons hblanks]
    dsimp only
    split at h
    · rename_i hclosing
      rw [if_pos hclosing]
      exact resume_append_of_ok h u
    · rename_i hclosing
      rw [if_neg hclosing]
      exact map_skipLead_append_of_ok h u

theorem skipStart_append_of_ok {brackets : List Bracket} {resumption : Resumption}
    (h : skipStart brackets s = .ok resumption) (hu : resumption.rest = [] → Stops u) :
    skipStart brackets (s ++ u) = .ok (resumption.append u) := by
  unfold skipStart at h
  dsimp only at h
  split at h
  · simp at h
  all_goals
    rename_i hblanks
    rw [skipStart, skipBlanks_append_of_cons hblanks]
    dsimp only
  · exact enter_append_of_ok h u
  · exact enter_append_of_ok h u
  · split at h
    · simp at h
    · rename_i hskip
      simp only [skipString_append_of_ok hskip]
      exact resume_append_of_ok h u
  · split at h
    · simp at h
    · rename_i hskip
      simp only [readWord_append_of_ok hskip]
      exact resume_append_of_ok h u
  · split at h
    · simp at h
    · rename_i hskip
      simp only [readWord_append_of_ok hskip]
      exact resume_append_of_ok h u
  · split at h
    · simp at h
    · rename_i hskip
      simp only [readWord_append_of_ok hskip]
      exact resume_append_of_ok h u
  · split at h
    · rename_i hstart
      split at h
      · simp at h
      · rename_i hskip
        have hbehind := length_le_of_resume h
        have hlonger := skipNumber_append_of_ok hskip (u := u) (by
          rintro rfl
          exact hu (List.eq_nil_of_length_eq_zero (Nat.le_zero.mp hbehind)))
        rw [List.cons_append] at hlonger
        simp only [hlonger, if_pos hstart]
        exact resume_append_of_ok h u
    · simp at h

theorem skipValues_append_of_ok {brackets : List Bracket} (h : skipValues brackets s = .ok rest)
    (hu : rest = [] → Stops u) : skipValues brackets (s ++ u) = .ok (rest ++ u) := by
  fun_induction skipValues brackets s with
  | case1 => simp at h
  | case2 brackets s after hstart =>
    obtain rfl : after = rest := Except.ok.inj h
    rw [skipValues_eq_proceed, skipStart_append_of_ok hstart hu]
    rfl
  | case3 brackets s inner after hstart ih =>
    have hpos := length_lt_of_skipValues h
    rw [skipValues_eq_proceed, skipStart_append_of_ok hstart]
    · exact ih h
    · rintro (hnil : after = [])
      simp [hnil] at hpos

theorem skipValue_append_of_ok (h : skipValue s = .ok rest) (hu : rest = [] → Stops u) :
    skipValue (s ++ u) = .ok (rest ++ u) :=
  skipValues_append_of_ok h hu

/-! ## Items -/

/-- An item that has more behind it. -/
def ItemStart.append (u : List Char) : ItemStart → ItemStart
  | close rest => close (rest ++ u)
  | item rest => item (rest ++ u)

theorem startItem_append_of_ok {bracket : Bracket} {first : Bool} {start : ItemStart}
    (h : startItem bracket first s = .ok start) (u : List Char) :
    startItem bracket first (s ++ u) = .ok (start.append u) := by
  unfold startItem at h
  split at h
  · simp at h
  · rename_i c after hblanks
    rw [startItem, skipBlanks_append_of_cons hblanks]
    dsimp only
    split at h
    · rename_i hclosing
      rw [if_pos hclosing, ← Except.ok.inj h]
      rfl
    · rename_i hclosing
      rw [if_neg hclosing]
      split at h
      · rename_i hfirst
        rw [if_pos hfirst, ← Except.ok.inj h]
        rfl
      · rename_i hfirst
        rw [if_neg hfirst]
        split at h
        · rename_i hcomma
          rw [if_pos hcomma]
          split at h
          · simp at h
          · rename_i d more hnext
            rw [skipBlanks_append_of_cons hnext]
            dsimp only
            split at h
            · simp at h
            · rename_i hitem
              rw [if_neg hitem, ← Except.ok.inj h]
              rfl
        · simp at h

theorem readKey_append_of_ok {key : String} (h : readKey s = .ok (key, rest)) (u : List Char) :
    readKey (s ++ u) = .ok (key, rest ++ u) := by
  unfold readKey at h
  split at h
  · split at h
    · simp at h
    · rename_i hread
      simp only [List.cons_append, readKey, readString_append_of_ok hread]
      simp_all
  · simp at h

end StackMachine.Json
