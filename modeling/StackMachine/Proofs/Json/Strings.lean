import StackMachine.Proofs.Json.Grammar

/-!
# Strings of the grammar and their readers

What `readString` and `skipString` do with the spelling of a string. Reading gives the text whose
code units are spelled, whatever the spelling, and fails where they are those of no text: where a
surrogate lacks its partner. Passing over a string asks only for the spelling.
-/

namespace StackMachine.Json

/-! ## Code units -/

theorem codeUnits_of_lt {c : Char} (h : c.toNat < 0x10000) : codeUnits c = [c.toNat] := if_pos h

/-- No character is a surrogate. -/
theorem not_surrogate (c : Char) : c.toNat < 0xd800 ∨ 0xe000 ≤ c.toNat := by
  rcases c.valid with h | h
  · exact Or.inl h
  · exact Or.inr (Nat.succ_le_of_lt h.1)

/-- A number outside the surrogates is the number of its character. -/
theorem toNat_ofNat_of_lt {n : Nat} (h : n < 0xd800 ∨ 0xe000 ≤ n) (hn : n < 0x110000) :
    (Char.ofNat n).toNat = n := by
  have hvalid : n.isValidChar := by
    unfold Nat.isValidChar
    omega
  rw [Char.ofNat, dif_pos hvalid]
  rfl

/-- The character of a surrogate pair. -/
def paired (high low : Nat) : Char :=
  Char.ofNat (0x10000 + (high - 0xd800) * 0x400 + (low - 0xdc00))

theorem isHighSurrogate_iff {n : Nat} : isHighSurrogate n = true ↔ 0xd800 ≤ n ∧ n < 0xdc00 := by
  simp [isHighSurrogate]
  omega

theorem isLowSurrogate_iff {n : Nat} : isLowSurrogate n = true ↔ 0xdc00 ≤ n ∧ n < 0xe000 := by
  simp [isLowSurrogate]
  omega

theorem codeUnits_paired {high low : Nat} (hhigh : isHighSurrogate high = true)
    (hlow : isLowSurrogate low = true) : codeUnits (paired high low) = [high, low] := by
  rw [isHighSurrogate_iff] at hhigh
  rw [isLowSurrogate_iff] at hlow
  have hnat : (paired high low).toNat = 0x10000 + (high - 0xd800) * 0x400 + (low - 0xdc00) :=
    toNat_ofNat_of_lt (by omega) (by omega)
  rw [codeUnits, hnat, if_neg (by omega), List.cons.injEq, List.cons.injEq]
  exact ⟨by omega, by omega, rfl⟩

/-- A character has a unit of its own or is a surrogate pair. -/
theorem codeUnits_cases (c : Char) :
    (codeUnits c = [c.toNat] ∧ isHighSurrogate c.toNat = false ∧ isLowSurrogate c.toNat = false) ∨
    ∃ high low, codeUnits c = [high, low] ∧ isHighSurrogate high = true ∧
      isLowSurrogate low = true ∧ paired high low = c := by
  have hc := not_surrogate c
  have hmax : c.toNat < 0x110000 := by
    rcases c.valid with h | h
    · exact Nat.lt_trans h (by decide)
    · exact h.2
  by_cases hsmall : c.toNat < 0x10000
  · refine Or.inl ⟨codeUnits_of_lt hsmall, ?_, ?_⟩
    · rw [Bool.eq_false_iff, Ne, isHighSurrogate_iff]
      omega
    · rw [Bool.eq_false_iff, Ne, isLowSurrogate_iff]
      omega
  · refine Or.inr ⟨_, _, if_neg hsmall, ?_, ?_, ?_⟩
    · rw [isHighSurrogate_iff]
      omega
    · rw [isLowSurrogate_iff]
      omega
    · rw [paired, ← Char.toNat_inj, toNat_ofNat_of_lt (by omega) (by omega)]
      omega

theorem unitsOf_cons (c : Char) (text : List Char) :
    unitsOf (c :: text) = codeUnits c ++ unitsOf text := List.flatMap_cons

/-- The first unit of a text is a character of its own or the first half of a pair. -/
theorem unitsOf_eq_cons {text : List Char} {unit : Nat} {units : List Nat}
    (h : unitsOf text = unit :: units) :
    (isHighSurrogate unit = false ∧ isLowSurrogate unit = false ∧
      ∃ text', text = Char.ofNat unit :: text' ∧ unitsOf text' = units) ∨
    (isHighSurrogate unit = true ∧ ∃ low text', units = low :: unitsOf text' ∧
      isLowSurrogate low = true ∧ text = paired unit low :: text') := by
  cases text with
  | nil => simp [unitsOf] at h
  | cons c text =>
    rw [unitsOf_cons] at h
    rcases codeUnits_cases c with ⟨hc, hhigh, hlow⟩ | ⟨high, low, hc, hhigh, hlow, rfl⟩
    · rw [hc, List.singleton_append, List.cons.injEq] at h
      obtain ⟨rfl, hrest⟩ := h
      exact Or.inl ⟨hhigh, hlow, text, by rw [Char.ofNat_toNat], hrest⟩
    · rw [hc, List.cons_append, List.singleton_append, List.cons.injEq] at h
      obtain ⟨rfl, hrest⟩ := h
      exact Or.inr ⟨hhigh, low, text, hrest.symm, hlow, rfl⟩

/-- The units of a character are those of no other one. -/
theorem unitsOf_eq_append_iff {text : List Char} {c : Char} {units : List Nat} :
    unitsOf text = codeUnits c ++ units ↔ ∃ text', text = c :: text' ∧ unitsOf text' = units := by
  constructor
  · intro h
    rcases codeUnits_cases c with ⟨hc, hhigh, hlow⟩ | ⟨high, low, hc, hhigh, hlow, rfl⟩
    · rw [hc, List.singleton_append] at h
      rcases unitsOf_eq_cons h with ⟨-, -, text', rfl, hrest⟩ | ⟨hhigh', -⟩
      · exact ⟨text', by rw [Char.ofNat_toNat], hrest⟩
      · simp [hhigh] at hhigh'
    · rw [hc, List.cons_append, List.singleton_append] at h
      rcases unitsOf_eq_cons h with ⟨hhigh', -⟩ | ⟨-, low', text', hrest, -, rfl⟩
      · simp [hhigh] at hhigh'
      · obtain ⟨rfl, rfl⟩ := List.cons.inj hrest
        exact ⟨text', rfl, rfl⟩
  · rintro ⟨text', rfl, rfl⟩
    exact unitsOf_cons c text'

/-- A text has no other text's code units. -/
theorem unitsOf_inj {s t : List Char} : unitsOf s = unitsOf t ↔ s = t := by
  constructor
  · intro h
    induction t generalizing s with
    | nil =>
      cases s with
      | nil => rfl
      | cons c s =>
        rcases codeUnits_cases c with ⟨hc, -⟩ | ⟨high, low, hc, -⟩
        · simp [hc, unitsOf] at h
        · simp [hc, unitsOf] at h
    | cons c t ih =>
      rw [unitsOf_cons, unitsOf_eq_append_iff] at h
      obtain ⟨s', rfl, hs'⟩ := h
      rw [ih hs']
  · rintro rfl
    rfl

/-- Characters that need no escape spell themselves. -/
theorem spells_of_plain {s : List Char}
    (h : (s.all fun c => 32 ≤ c.toNat && c != '"' && c != '\\') = true) :
    Spells (unitsOf s) s := by
  induction s with
  | nil => exact Spells.nil
  | cons c s ih =>
    simp only [List.all_cons, Bool.and_eq_true, bne_iff_ne, decide_eq_true_eq] at h
    obtain ⟨⟨⟨hlow, hquote⟩, hslash⟩, hs⟩ := h
    rw [unitsOf_cons]
    exact Spells.plain hlow hquote hslash (ih (by simpa using hs))

/-! ## Escapes -/

theorem hexValue?_of_hexDigit {c : Char} {n : Nat} (h : HexDigit c n) :
    Text.hexValue? c = some n := by
  have hlower : ∀ k : Fin 16, Text.hexValue? "0123456789abcdef".toList[k] = some k.val := by decide
  have hupper : ∀ k : Fin 16, Text.hexValue? "0123456789ABCDEF".toList[k] = some k.val := by decide
  rcases h with h | h
  · obtain ⟨hn, rfl⟩ := List.getElem?_eq_some_iff.mp h
    exact hlower ⟨n, hn⟩
  · obtain ⟨hn, rfl⟩ := List.getElem?_eq_some_iff.mp h
    exact hupper ⟨n, hn⟩

theorem HexDigit.lt {c : Char} {n : Nat} (h : HexDigit c n) : n < 16 := by
  rcases h with h | h
  · exact (List.getElem?_eq_some_iff.mp h).1
  · exact (List.getElem?_eq_some_iff.mp h).1

theorem readHex_of_hexDigits {a b c d : Char} {i j k l : Nat} (ha : HexDigit a i)
    (hb : HexDigit b j) (hc : HexDigit c k) (hd : HexDigit d l) (rest : List Char) :
    readHex (a :: b :: c :: d :: rest) = .ok (((i * 16 + j) * 16 + k) * 16 + l, rest) := by
  simp [readHex, hexValue?_of_hexDigit ha, hexValue?_of_hexDigit hb, hexValue?_of_hexDigit hc,
    hexValue?_of_hexDigit hd]

theorem shortEscape_spec {letter c : Char} (h : (letter, c) ∈ shortEscapes) :
    letter ≠ 'u' ∧ escaped? letter = some c ∧ c.toNat < 128 := by
  have hall : ∀ p ∈ shortEscapes, p.1 ≠ 'u' ∧ escaped? p.1 = some p.2 ∧ p.2.toNat < 128 := by
    decide
  exact hall _ h

theorem readEscape_of_short {letter c : Char} (h : (letter, c) ∈ shortEscapes) (rest : List Char) :
    readEscape (letter :: rest) = .ok (c, rest) := by
  obtain ⟨hu, hescaped, -⟩ := shortEscape_spec h
  unfold readEscape
  split
  · simp_all
  · simp_all
  · simp_all

/-- Behind the first half of a pair, the second half must be spelled as a number. -/
theorem readLowSurrogate_of_spells {units : List Nat} {body : List Char} (h : Spells units body)
    (high : Nat) (rest : List Char) :
    (∃ low units' body', units = low :: units' ∧ isLowSurrogate low = true ∧
      Spells units' body' ∧ body'.length < body.length ∧
      readLowSurrogate high (body ++ '"' :: rest) =
        .ok (paired high low, body' ++ '"' :: rest)) ∨
    ((∀ low units', units = low :: units' → isLowSurrogate low = false) ∧
      ∃ fault, readLowSurrogate high (body ++ '"' :: rest) = .error fault) := by
  cases h with
  | nil => exact Or.inr ⟨by simp, _, rfl⟩
  | @plain c units body hlow hquote hslash h =>
    refine Or.inr ⟨?_, .grammar .unpairedSurrogate, ?_⟩
    · intro low units' heq
      rcases codeUnits_cases c with ⟨hc, -, hlow⟩ | ⟨high, low', hc, hhigh, -⟩
      · rw [hc, List.singleton_append, List.cons.injEq] at heq
        rwa [← heq.1]
      · rw [hc, List.cons_append, List.cons.injEq] at heq
        rw [← heq.1, Bool.eq_false_iff, Ne, isLowSurrogate_iff]
        rw [isHighSurrogate_iff] at hhigh
        omega
    · rw [List.cons_append]
      unfold readLowSurrogate
      split <;> simp_all
  | @short letter c units body hescape h =>
    obtain ⟨hu, -, hsmall⟩ := shortEscape_spec hescape
    refine Or.inr ⟨?_, .grammar .unpairedSurrogate, ?_⟩
    · intro low units' heq
      rw [List.cons.injEq] at heq
      rw [← heq.1, Bool.eq_false_iff, Ne, isLowSurrogate_iff]
      omega
    · rw [List.cons_append, List.cons_append]
      unfold readLowSurrogate
      split <;> simp_all
  | @numbered a b c d i j k l units body ha hb hc hd h =>
    have hhex := readHex_of_hexDigits ha hb hc hd (body ++ '"' :: rest)
    generalize ((i * 16 + j) * 16 + k) * 16 + l = low at hhex ⊢
    by_cases hlow : isLowSurrogate low = true
    · refine Or.inl ⟨low, units, body, rfl, hlow, h, by simp; omega, ?_⟩
      simp [readLowSurrogate, hhex, hlow, paired]
    · rw [Bool.not_eq_true] at hlow
      refine Or.inr ⟨?_, .grammar .misplacedSurrogate, ?_⟩
      · intro low' units' heq
        rwa [← (List.cons.inj heq).1]
      · simp [readLowSurrogate, hhex, hlow]

/-- A unit that is no surrogate is the unit of its character. -/
theorem codeUnits_ofNat {unit : Nat} (hunit : unit < 0x10000)
    (hhigh : isHighSurrogate unit = false) (hlow : isLowSurrogate unit = false) :
    codeUnits (Char.ofNat unit) = [unit] := by
  rw [Bool.eq_false_iff, Ne, isHighSurrogate_iff] at hhigh
  rw [Bool.eq_false_iff, Ne, isLowSurrogate_iff] at hlow
  have hnat := toNat_ofNat_of_lt (n := unit) (by omega) (by omega)
  rw [codeUnits_of_lt (by omega), hnat]

/-- A numbered escape is read as a character whose units are spelled from it on, unless the units
from it on are those of no text. -/
theorem readNumbered_of_spells {s : List Char} {unit : Nat} {units : List Nat}
    {body rest : List Char} (hhex : readHex s = .ok (unit, body ++ '"' :: rest))
    (hunit : unit < 0x10000) (h : Spells units body) :
    (∃ c units' body', unit :: units = codeUnits c ++ units' ∧ Spells units' body' ∧
      body'.length ≤ body.length ∧ readNumbered s = .ok (c, body' ++ '"' :: rest)) ∨
    ((∀ text, unitsOf text ≠ unit :: units) ∧ ∃ fault, readNumbered s = .error fault) := by
  rw [readNumbered, hhex]
  cases hlow : isLowSurrogate unit with
  | true =>
    refine Or.inr ⟨?_, .grammar .misplacedSurrogate, by simp [hlow]⟩
    intro text htext
    rcases unitsOf_eq_cons htext with ⟨-, hlow', -⟩ | ⟨hhigh, -⟩
    · simp [hlow] at hlow'
    · rw [isHighSurrogate_iff] at hhigh
      rw [isLowSurrogate_iff] at hlow
      omega
  | false =>
    cases hhigh : isHighSurrogate unit with
    | false =>
      refine Or.inl ⟨Char.ofNat unit, units, body, ?_, h, Nat.le_refl _, by simp [hlow, hhigh]⟩
      rw [codeUnits_ofNat hunit hhigh hlow, List.singleton_append]
    | true =>
      simp only [hlow, hhigh, Bool.false_eq_true, if_false, if_true]
      rcases readLowSurrogate_of_spells h unit rest with
        ⟨low, units', body', rfl, hlow', hbody', hlength, hread⟩ | ⟨hnone, hfault⟩
      · refine Or.inl ⟨paired unit low, units', body', ?_, hbody', Nat.le_of_lt hlength, hread⟩
        rw [codeUnits_paired hhigh hlow', List.cons_append, List.singleton_append]
      · refine Or.inr ⟨?_, hfault⟩
        intro text htext
        rcases unitsOf_eq_cons htext with ⟨hhigh', -⟩ | ⟨-, low, text', rfl, hlow', -⟩
        · simp [hhigh] at hhigh'
        · simp [hnone low _ rfl] at hlow'

/-! ## Reading strings -/

theorem readString_of_escape {s rest : List Char} {c : Char} (h : readEscape s = .ok (c, rest)) :
    readString ('\\' :: s) = (readString rest).map fun (text, after) => (c :: text, after) := by
  rw [readString]
  split
  · simp_all
  · simp_all

theorem readString_of_escape_error {s : List Char} {fault : Fault}
    (h : readEscape s = .error fault) : readString ('\\' :: s) = .error fault := by
  rw [readString]
  split
  · simp_all
  · simp_all

theorem readString_of_plain {c : Char} (hlow : ' ' ≤ c) (hquote : c ≠ '"') (hslash : c ≠ '\\')
    (s : List Char) :
    readString (c :: s) = (readString s).map fun (text, after) => (c :: text, after) := by
  rw [readString, if_neg (Char.not_lt.mpr hlow)]
  · simpa using hquote
  · simpa using hslash

/-- A character that is read by itself counts for its units. -/
theorem map_readString_eq_ok_iff {c : Char} {s rest text after : List Char} {units : List Nat}
    (h : ∀ text, readString s = .ok (text, after) ↔ unitsOf text = units ∧ after = rest) :
    ((readString s).map fun (text, after) => (c :: text, after)) = .ok (text, after) ↔
      unitsOf text = codeUnits c ++ units ∧ after = rest := by
  rw [unitsOf_eq_append_iff]
  cases hread : readString s with
  | error fault =>
    simp only [hread, reduceCtorEq, false_iff] at h
    simp only [Except.map, reduceCtorEq, false_iff]
    rintro ⟨⟨text', -, hunits⟩, hafter⟩
    exact h text' ⟨hunits, hafter⟩
  | ok pair =>
    obtain ⟨text', after'⟩ := pair
    simp only [hread, Except.ok.injEq, Prod.mk.injEq] at h
    simp only [Except.map, Except.ok.injEq, Prod.mk.injEq]
    constructor
    · rintro ⟨rfl, rfl⟩
      have hsame := (h text').mp ⟨rfl, rfl⟩
      exact ⟨⟨text', rfl, hsame.1⟩, hsame.2⟩
    · rintro ⟨⟨text'', rfl, hunits⟩, hafter⟩
      obtain ⟨rfl, rfl⟩ := (h text'').mpr ⟨hunits, hafter⟩
      exact ⟨rfl, rfl⟩

/-- Reading a string gives the text of its code units, if they are those of a text. -/
theorem readString_eq_ok_iff {units : List Nat} {body : List Char} (h : Spells units body)
    {rest text after : List Char} :
    readString (body ++ '"' :: rest) = .ok (text, after) ↔ unitsOf text = units ∧ after = rest := by
  -- A surrogate pair takes two escapes at once, so the induction is on the length of the spelling.
  induction hn : body.length using Nat.strongRecOn generalizing units body text with
  | _ n ih =>
    cases h with
    | nil =>
      cases text with
      | nil => simp [readString, unitsOf, eq_comm]
      | cons c text =>
        rcases codeUnits_cases c with ⟨hc, -⟩ | ⟨high, low, hc, -⟩
        · simp [readString, unitsOf_cons, hc]
        · simp [readString, unitsOf_cons, hc]
    | plain hlow hquote hslash h =>
      rw [List.cons_append, readString_of_plain hlow hquote hslash]
      exact map_readString_eq_ok_iff fun text => ih _ (by simp [← hn]) h rfl
    | @short letter c units body hescape h =>
      have hsmall := (shortEscape_spec hescape).2.2
      have hunits : c.toNat :: units = codeUnits c ++ units := by
        rw [codeUnits_of_lt (Nat.lt_trans hsmall (by decide)), List.singleton_append]
      rw [List.cons_append, List.cons_append, readString_of_escape (readEscape_of_short hescape _),
        hunits]
      refine map_readString_eq_ok_iff fun text => ih _ ?_ h rfl
      rw [← hn, List.length_cons, List.length_cons]
      omega
    | @numbered a b c d i j k l units body ha hb hc hd h =>
      have hhex := readHex_of_hexDigits ha hb hc hd (body ++ '"' :: rest)
      have hunit : ((i * 16 + j) * 16 + k) * 16 + l < 0x10000 := by
        have := ha.lt
        have := hb.lt
        have := hc.lt
        have := hd.lt
        omega
      have hescape : ∀ s, readEscape ('u' :: s) = readNumbered s := fun _ => rfl
      simp only [List.cons_append]
      rcases readNumbered_of_spells hhex hunit h with
        ⟨c', units', body', hunits, hbody', hlength, hread⟩ | ⟨hnone, fault, hread⟩
      · rw [readString_of_escape ((hescape _).trans hread), hunits]
        refine map_readString_eq_ok_iff fun text => ih _ ?_ hbody' rfl
        simp only [List.length_cons] at hn
        omega
      · rw [readString_of_escape_error ((hescape _).trans hread)]
        simp only [reduceCtorEq, false_iff]
        exact fun htext => hnone text htext.1

/-! ## Passing over strings -/

/-- Any spelling is passed over, also that of a surrogate without its partner. -/
theorem skipString_of_spells {units : List Nat} {body : List Char} (h : Spells units body)
    (rest : List Char) : skipString (body ++ '"' :: rest) = .ok rest := by
  induction h with
  | nil => rw [List.nil_append, skipString]
  | plain hlow hquote hslash _ ih =>
    rw [List.cons_append, skipString, if_neg (Char.not_lt.mpr hlow), ih]
    · simpa using hquote
    · simpa using hslash
  | @short letter c units body hescape _ ih =>
    obtain ⟨hu, hescaped, -⟩ := shortEscape_spec hescape
    have hskip : skipEscape (letter :: (body ++ '"' :: rest)) = .ok (body ++ '"' :: rest) := by
      unfold skipEscape
      split <;> simp_all
    rw [List.cons_append, List.cons_append, skipString]
    split <;> simp_all
  | @numbered a b c d i j k l units body ha hb hc hd _ ih =>
    have hskip : skipEscape ('u' :: a :: b :: c :: d :: (body ++ '"' :: rest)) =
        .ok (body ++ '"' :: rest) := by
      rw [skipEscape, readHex_of_hexDigits ha hb hc hd]
      rfl
    simp only [List.cons_append]
    rw [skipString]
    split <;> simp_all

end StackMachine.Json
