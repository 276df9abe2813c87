import StackMachine.Proofs.Json.Written

/-!
# Written texts that are cut off

A text that is cut off is not read as a shorter one: from every cut of what is written for a value,
a reader runs out of characters. The statements are put together from the tokens on. A token that
ends with a character of its own is read as a whole or not at all, which is the relation `Spans`. A
number is not: a cut of it is a shorter number, and it is the bracket behind it that is missing.
-/

namespace StackMachine.Json

/-- The text has ended too early. -/
def RunsOut {α : Type} (reading : Except Fault α) : Prop :=
  ∃ fault, reading = .error (.ended fault)

/-- A reader needs all of a text: it runs out of every cut. -/
def Needs {α : Type} (read : List Char → Except Fault α) (text : List Char) : Prop :=
  ∀ cut, cut <+: text → cut ≠ text → RunsOut (read cut)

/-- A text is read as a whole, whatever follows it, and not in part. -/
structure Spans {α : Type} (read : List Char → Reading α) (text : List Char) (a : α) : Prop where
  whole (rest : List Char) : read (text ++ rest) = .ok (a, rest)
  needs : Needs read text

section Needs

variable {α β : Type} {read : List Char → Except Fault α} {text more : List Char}

theorem RunsOut.map {reading : Except Fault α} (h : RunsOut reading) (f : α → β) :
    RunsOut (reading.map f) := by
  obtain ⟨fault, rfl⟩ := h
  exact ⟨fault, rfl⟩

theorem RunsOut.bind {reading : Except Fault α} (h : RunsOut reading)
    (next : α → Except Fault β) : RunsOut (reading.bind next) := by
  obtain ⟨fault, rfl⟩ := h
  exact ⟨fault, rfl⟩

theorem needs_nil (read : List Char → Except Fault α) : Needs read [] := by
  intro cut hcut hne
  exact absurd (List.prefix_nil.mp hcut) hne

theorem needs_cons {c : Char} (hnil : RunsOut (read [])) (h : Needs (fun s => read (c :: s)) text) :
    Needs read (c :: text) := by
  intro cut hcut hne
  rcases List.prefix_cons_iff.mp hcut with rfl | ⟨after, rfl, hafter⟩
  · exact hnil
  · exact h after hafter fun heq => hne (by rw [heq])

/-- A cut is within the first part of a text, or behind it and within the second part. -/
theorem Needs.append (h : Needs read text) (hmore : Needs (fun s => read (text ++ s)) more) :
    Needs read (text ++ more) := by
  intro cut hcut hne
  obtain ⟨missing, hmissing⟩ := hcut
  rcases List.append_eq_append_iff.mp hmissing with ⟨after, htext, -⟩ | ⟨after, rfl, hafter⟩
  · by_cases heq : cut = text
    · subst heq
      have hnil := hmore [] List.nil_prefix fun h => hne (by rw [← h, List.append_nil])
      simpa using hnil
    · exact h cut ⟨after, htext.symm⟩ heq
  · exact hmore after ⟨missing, hafter.symm⟩ fun heq => hne (by rw [heq])

/-- What a reader needs is needed by a reader that runs out with it. -/
theorem Needs.mono {read' : List Char → Except Fault β} (h : Needs read text)
    (hmono : ∀ s, RunsOut (read s) → RunsOut (read' s)) : Needs read' text := by
  intro cut hcut hne
  exact hmono cut (h cut hcut hne)

/-- The rest of a text is needed behind its first character. -/
theorem Needs.tail {c : Char} (h : Needs read (c :: text)) :
    Needs (fun s => read (c :: s)) text := by
  intro cut hcut hne
  exact h (c :: cut) ((List.prefix_cons_inj c).mpr hcut) fun heq => hne (List.cons.inj heq).2

/-- Behind a text that is read as a whole, the next reader needs what follows. -/
theorem Spans.bind {read : List Char → Reading α} {a : α} (h : Spans read text a)
    {next : α × List Char → Except Fault β} (hnext : Needs (fun s => next (a, s)) more) :
    Needs (fun s => (read s).bind next) (text ++ more) := by
  refine (h.needs.mono fun s hs => hs.bind next).append (hnext.mono fun s hs => ?_)
  rw [h.whole]
  exact hs

end Needs

/-! ## Strings -/

theorem utf8Size_of_hexDigit {c : Char} {n : Nat} (h : HexDigit c n) : c.utf8Size = 1 := by
  have hlower : ∀ k : Fin 16, ("0123456789abcdef".toList[k]).utf8Size = 1 := by decide
  have hupper : ∀ k : Fin 16, ("0123456789ABCDEF".toList[k]).utf8Size = 1 := by decide
  rcases h with h | h
  · obtain ⟨hn, rfl⟩ := List.getElem?_eq_some_iff.mp h
    exact hlower ⟨n, hn⟩
  · obtain ⟨hn, rfl⟩ := List.getElem?_eq_some_iff.mp h
    exact hupper ⟨n, hn⟩

theorem spans_readHex {a b c d : Char} {i j k l : Nat} (ha : HexDigit a i) (hb : HexDigit b j)
    (hc : HexDigit c k) (hd : HexDigit d l) :
    Spans readHex [a, b, c, d] (((i * 16 + j) * 16 + k) * 16 + l) := by
  constructor
  · exact readHex_of_hexDigits ha hb hc hd
  · -- fewer than four digits are fewer than four bytes
    have hshort : ∀ short, byteSize short < 4 → short.length < 4 → RunsOut (readHex short) := by
      intro short hsize hlength
      refine ⟨.inString, ?_⟩
      unfold readHex
      split
      · simp only [List.length_cons] at hlength
        omega
      · rw [if_pos hsize]
    have hsizes := And.intro (utf8Size_of_hexDigit ha)
      (And.intro (utf8Size_of_hexDigit hb) (utf8Size_of_hexDigit hc))
    refine needs_cons (hshort [] ?_ ?_) (needs_cons (hshort [a] ?_ ?_)
      (needs_cons (hshort [a, b] ?_ ?_) (needs_cons (hshort [a, b, c] ?_ ?_) (needs_nil _))))
    all_goals simp [byteSize, hsizes]

theorem spans_readEscape_short {letter c : Char} (h : (letter, c) ∈ shortEscapes) :
    Spans readEscape [letter] c :=
  ⟨readEscape_of_short h, needs_cons ⟨.inString, rfl⟩ (needs_nil _)⟩

/-- The number that is written for a control character is below the surrogates. -/
theorem spans_readEscape_numbered {c : Char} (hc : c.toNat < 32) :
    Spans readEscape ['u', '0', '0', hexDigit (c.toNat / 16), hexDigit (c.toNat % 16)] c := by
  have hzero : HexDigit '0' 0 := Or.inl rfl
  have hhigh : HexDigit (hexDigit (c.toNat / 16)) (c.toNat / 16) := hexDigit_spec (by omega)
  have hlow : HexDigit (hexDigit (c.toNat % 16)) (c.toNat % 16) := hexDigit_spec (by omega)
  have hhex := spans_readHex hzero hzero hhigh hlow
  have hvalue : ((0 * 16 + 0) * 16 + c.toNat / 16) * 16 + c.toNat % 16 = c.toNat := by
    omega
  rw [hvalue] at hhex
  constructor
  · intro rest
    have hfirst : isHighSurrogate c.toNat = false := by
      rw [Bool.eq_false_iff, Ne, isHighSurrogate_iff]
      omega
    have hsecond : isLowSurrogate c.toNat = false := by
      rw [Bool.eq_false_iff, Ne, isLowSurrogate_iff]
      omega
    rw [List.cons_append, readEscape, readNumbered, hhex.whole rest]
    simp only [hfirst, hsecond, Bool.false_eq_true, if_false, Char.ofNat_toNat]
  · refine needs_cons ⟨.inString, rfl⟩ (hhex.needs.mono ?_)
    rintro s ⟨fault, hfault⟩
    exact ⟨fault, by rw [readEscape, readNumbered, hfault]⟩

/-- A written character stands for itself, or it is a backslash and an escape. -/
theorem writeChar_cases (c : Char) :
    (writeChar c = [c] ∧ ' ' ≤ c ∧ c ≠ '"' ∧ c ≠ '\\') ∨
      ∃ escape, writeChar c = '\\' :: escape ∧ Spans readEscape escape c := by
  unfold writeChar
  split
  · exact Or.inr ⟨_, rfl, spans_readEscape_short (by decide)⟩
  · exact Or.inr ⟨_, rfl, spans_readEscape_short (by decide)⟩
  · exact Or.inr ⟨_, rfl, spans_readEscape_short (by decide)⟩
  · exact Or.inr ⟨_, rfl, spans_readEscape_short (by decide)⟩
  · exact Or.inr ⟨_, rfl, spans_readEscape_short (by decide)⟩
  · exact Or.inr ⟨_, rfl, spans_readEscape_short (by decide)⟩
  · exact Or.inr ⟨_, rfl, spans_readEscape_short (by decide)⟩
  · rename_i hquote hslash _ _ _ _ _
    split
    · rename_i hlow
      exact Or.inr ⟨_, rfl, spans_readEscape_numbered hlow⟩
    · rename_i hlow
      exact Or.inl ⟨rfl, Char.not_lt.mp hlow, hquote, hslash⟩

theorem runsOut_readString_nil : RunsOut (readString []) :=
  ⟨.inString, by rw [readString]⟩

/-- A string is read as a whole, and needed up to its closing quote. -/
theorem spans_readString (text : List Char) :
    Spans readString (text.flatMap writeChar ++ ['"']) text := by
  constructor
  · intro rest
    rw [List.append_assoc, List.singleton_append]
    exact (readString_eq_ok_iff (spells_flatMap_writeChar text)).mpr ⟨rfl, rfl⟩
  · induction text with
    | nil => exact needs_cons runsOut_readString_nil (needs_nil _)
    | cons c text ih =>
      rw [List.flatMap_cons, List.append_assoc]
      rcases writeChar_cases c with ⟨hplain, hlow, hquote, hslash⟩ | ⟨escape, hescape, hspans⟩
      · rw [hplain, List.singleton_append]
        refine needs_cons runsOut_readString_nil (ih.mono fun s hs => ?_)
        rw [readString_of_plain hlow hquote hslash]
        exact hs.map _
      · rw [hescape, List.cons_append]
        refine needs_cons runsOut_readString_nil ((hspans.needs.mono ?_).append (ih.mono ?_))
        · rintro s ⟨fault, hfault⟩
          exact ⟨fault, readString_of_escape_error hfault⟩
        · intro s hs
          rw [readString_of_escape (hspans.whole s)]
          exact hs.map _

/-! ## Integers -/

/-- The first digits of a number are not more than the number. -/
theorem ofDigits_le_of_front {front digits : List Char} (h : front <+: digits) :
    Decimal.ofDigits front ≤ Decimal.ofDigits digits := by
  obtain ⟨more, rfl⟩ := h
  have hle := Decimal.le_appendDigits (Decimal.ofDigits front) more
  rwa [Decimal.appendDigits, Decimal.ofDigits, Decimal.appendDigits, ← List.foldl_append] at hle

theorem WholeText.of_front {front digits : List Char} (h : WholeText digits)
    (hfront : front <+: digits) (hne : front ≠ []) : WholeText front := by
  obtain ⟨⟨hdigits, hall⟩, hzero⟩ := h
  refine ⟨⟨hne, fun c hc => hall c (hfront.subset hc)⟩, fun hhead => ?_⟩
  obtain ⟨c, front, rfl⟩ := List.exists_cons_of_ne_nil hne
  obtain ⟨more, rfl⟩ := hfront
  have hsingle := hzero hhead
  rw [List.cons_append, List.cons.injEq] at hsingle
  rw [hsingle.1, (List.append_eq_nil_iff.mp hsingle.2).1]

/-- The first digits of an integer that a word can hold are such an integer, too. -/
theorem readNumber_of_front {n : Int} (hn : -9223372036854775808 ≤ n ∧ n ≤ 9223372036854775807)
    {front : List Char} (hfront : front <+: Decimal.digitsOf n.natAbs) (hne : front ≠ []) :
    ∃ m : Int, (-9223372036854775808 ≤ m ∧ m ≤ 9223372036854775807) ∧
      readNumber ((if n < 0 then ['-'] else []) ++ front) = .ok (.integer m, []) := by
  have hdigits := wholeText_digitsOf n.natAbs
  have hwhole := hdigits.of_front hfront hne
  have hle := ofDigits_le_of_front hfront
  rw [Decimal.ofDigits_digitsOf] at hle
  have hbound : (Decimal.ofDigits front : Int) ≤ n.natAbs := by exact_mod_cast hle
  let literal : Literal := ⟨decide (n < 0), front, none, none⟩
  let m : Int :=
    if literal.negative then -(Decimal.ofDigits front : Int) else Decimal.ofDigits front
  have hm : -9223372036854775808 ≤ m ∧ m ≤ 9223372036854775807 := by
    by_cases hneg : n < 0
    · simp only [m, literal, hneg, decide_true, if_true]
      omega
    · simp only [m, literal, hneg, decide_false, Bool.false_eq_true, if_false]
      omega
  -- a minus sign stands before a digit that is not zero
  have hzero : ¬ (literal.negative = true ∧ literal.whole = ['0']) := by
    rintro ⟨hneg, hfront0 : front = ['0']⟩
    obtain ⟨more, hmore⟩ := hfront
    have hsingle := hdigits.2 (by rw [← hmore, hfront0]; rfl)
    exact (isInteger_integerLiteral n).2.2.1 ⟨hneg, hsingle⟩
  have hvalue : literal.value = .ok (.integer m) :=
    (value_eq_integer_iff hwhole (by omega)).mpr ⟨rfl, rfl, hzero, rfl⟩
  have htext : NumberText literal ((if literal.negative then ['-'] else []) ++ front ++ [] ++ []) :=
    .mk hwhole .absent .absent
  have hread := @readNumber_of_numberText literal _ [] htext stops_nil
  refine ⟨m, hm, ?_⟩
  rw [hvalue] at hread
  simpa [literal, Except.map] using hread

/-- A cut of an integer is no number yet, or it is a shorter one. -/
theorem readNumber_of_cut {n : Int} (hn : -9223372036854775808 ≤ n ∧ n ≤ 9223372036854775807)
    {cut : List Char} (hcut : cut <+: writeInteger n) :
    RunsOut (readNumber cut) ∨
      ∃ m : Int, (-9223372036854775808 ≤ m ∧ m ≤ 9223372036854775807) ∧
        readNumber cut = .ok (.integer m, []) := by
  have hread := @readNumber_of_front n hn
  by_cases hneg : n < 0
  · rw [writeInteger, if_pos hneg] at hcut
    simp only [if_pos hneg] at hread
    rcases List.prefix_cons_iff.mp hcut with rfl | ⟨front, rfl, hfront⟩
    · exact Or.inl ⟨.inValue, rfl⟩
    · by_cases hne : front = []
      · subst hne
        exact Or.inl ⟨.inValue, rfl⟩
      · exact Or.inr (hread hfront hne)
  · rw [writeInteger, if_neg hneg] at hcut
    simp only [if_neg hneg] at hread
    by_cases hne : cut = []
    · subst hne
      exact Or.inl ⟨.inValue, rfl⟩
    · exact Or.inr (hread hcut hne)

/-! ## Items of brackets -/

/-- What stands in front of an entry of a bracket: a comma, unless it is the first one. -/
def lead (first : Bool) : List Char := if first then [] else [',']

section Items

variable {bracket : Bracket} {c : Char}

theorem startItem_lead (hblank : isBlank c = false) (hclosing : c ≠ bracket.closing)
    (first : Bool) (s : List Char) :
    startItem bracket first (lead first ++ c :: s) = .ok (.item (c :: s)) := by
  have hskip := skipBlanks_cons hblank s
  have hstart : ∃ d rest, skipBlanks (c :: s) = d :: rest ∧ d ≠ bracket.closing :=
    ⟨c, s, hskip, hclosing⟩
  cases first with
  | true => exact (startItem_of_first hstart).trans (by rw [hskip])
  | false => exact (startItem_of_next blanks_nil hstart).trans (by rw [hskip])

/-- An entry is needed where it starts. -/
theorem needs_startItem (bracket : Bracket) (first : Bool) (c : Char) :
    Needs (startItem bracket first) (lead first ++ [c]) := by
  have hnil : RunsOut (startItem bracket first []) := ⟨bracket.endFault, rfl⟩
  cases first with
  | true => exact needs_cons hnil (needs_nil _)
  | false =>
    refine needs_cons hnil (needs_cons ⟨.inValue, ?_⟩ (needs_nil _))
    cases bracket <;> rfl

/-- The end of a bracket is needed. -/
theorem needs_closing (bracket : Bracket) (first : Bool) :
    Needs (startItem bracket first) [bracket.closing] :=
  needs_cons ⟨bracket.endFault, rfl⟩ (needs_nil _)

/-- A reader of entries that runs out where an entry starts needs the entry if it needs it there. -/
theorem needs_entry {α : Type} {read : List Char → Except Fault α} {first : Bool}
    {text : List Char} (hstart : ∀ s, RunsOut (startItem bracket first s) → RunsOut (read s))
    (h : Needs (fun s => read (lead first ++ c :: s)) text) :
    Needs read (lead first ++ c :: text) := by
  have happend : lead first ++ c :: text = (lead first ++ [c]) ++ text := by
    rw [List.append_assoc, List.singleton_append]
  rw [happend]
  refine ((needs_startItem bracket first c).mono hstart).append (h.mono fun s hs => ?_)
  rwa [List.append_assoc, List.singleton_append]

end Items

end StackMachine.Json
