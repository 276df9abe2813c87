import StackMachine.Toml.Text
import StackMachine.Toml.Write

/-!
# Strings that are written and read

Whatever form is chosen for a string, reading it gives the string back (`readString_writeString`).
The forms with three quotes need care at two places: a line end behind the opening quotes is
dropped, so one is written wherever the text may start with one, and quotes in front of the closing
ones are taken together with them.
-/

namespace StackMachine.Toml

/-! ## Characters -/

/-- What is no control character may stand as it is, except that a line end has a meaning. -/
theorem isPlain_of_not_isControl {c : Char} (h : isControl c = false) :
    isPlain c = true ∨ c = '\n' := by
  simp only [isControl, Bool.or_eq_false_iff, Bool.and_eq_false_iff, decide_eq_false_iff_not,
    bne_eq_false_iff_eq, beq_eq_false_iff_ne] at h
  obtain ⟨hlow, hdelete⟩ := h
  rcases hlow with (hlow | rfl) | rfl
  · left
    simp [isPlain, hdelete, Char.not_lt.mp hlow]
  · exact Or.inl rfl
  · exact Or.inr rfl

/-- Line ends are not plain. -/
theorem ne_of_isPlain {c : Char} (h : isPlain c = true) : c ≠ '\n' ∧ c ≠ '\r' := by
  constructor
  · rintro rfl
    exact absurd h (by decide)
  · rintro rfl
    exact absurd h (by decide)

theorem hexValue?_upperHexDigit {n : Nat} (hn : n < 16) :
    Text.hexValue? (upperHexDigit n) = some n := by
  have hall : ∀ k : Fin 16, Text.hexValue? (upperHexDigit k.val) = some k.val := by decide
  exact hall ⟨n, hn⟩

/-- A control character is one of the first characters. -/
theorem toNat_lt_of_isControl {c : Char} (h : isControl c = true) : c.toNat < 128 := by
  simp only [isControl, Bool.or_eq_true, Bool.and_eq_true, decide_eq_true_eq, beq_iff_eq] at h
  rcases h with ⟨⟨hlow, -⟩, -⟩ | rfl
  · have hc : c.toNat < 32 := hlow
    omega
  · decide

theorem readEscape_numbered {c : Char} (hc : c.toNat < 128) (rest : List Char) :
    readEscape ('u' :: '0' :: '0' :: upperHexDigit (c.toNat / 16) ::
      upperHexDigit (c.toNat % 16) :: rest) = some (c, rest) := by
  have hvalid : (c.toNat / 16 * 16 + c.toNat % 16).isValidChar := by
    unfold Nat.isValidChar
    omega
  have hnumber : hexNumber? 0
      ['0', '0', upperHexDigit (c.toNat / 16), upperHexDigit (c.toNat % 16)] =
      some (c.toNat / 16 * 16 + c.toNat % 16) := by
    have hzero : Text.hexValue? '0' = some 0 := rfl
    simp [hexNumber?, hzero, hexValue?_upperHexDigit (show c.toNat / 16 < 16 by omega),
      hexValue?_upperHexDigit (show c.toNat % 16 < 16 by omega)]
  rw [readEscape, readNumbered]
  simp only [List.take_succ_cons, List.take_zero, List.length_cons, List.length_nil,
    List.drop_succ_cons, List.drop_zero, hnumber, if_pos hvalid]
  rw [Nat.div_add_mod', Char.ofNat_toNat]
  rfl

/-- A character other than a line end is written as it is if it is plain, and else as an escape that
is read as the character. -/
theorem writeChar_cases {c : Char} (hc : c ≠ '\n') :
    (writeChar c = [c] ∧ isPlain c = true ∧ c ≠ '\\') ∨
    ∃ escape, writeChar c = '\\' :: escape ∧
      ∀ rest, readEscape (escape ++ rest) = some (c, rest) := by
  unfold writeChar
  split
  case h_6 hslash =>
    split
    · rename_i hcontrol
      exact Or.inr ⟨_, rfl, readEscape_numbered (toNat_lt_of_isControl hcontrol)⟩
    · rename_i hcontrol
      rw [Bool.not_eq_true] at hcontrol
      have hplain := (isPlain_of_not_isControl hcontrol).resolve_right hc
      exact Or.inl ⟨rfl, hplain, hslash⟩
  all_goals exact Or.inr ⟨_, rfl, fun _ => rfl⟩

/-- What is written for a character other than a line end starts with the character itself or with a
backslash. -/
theorem writeChar_eq_cons {c : Char} (hc : c ≠ '\n') :
    ∃ d more, writeChar c = d :: more ∧ (d = c ∨ d = '\\') ∧ isPlain d = true := by
  rcases writeChar_cases hc with ⟨hwrite, hplain, -⟩ | ⟨escape, hwrite, -⟩
  · exact ⟨c, [], hwrite, Or.inl rfl, hplain⟩
  · exact ⟨'\\', escape, hwrite, Or.inr rfl, rfl⟩

/-- What is read in front of a text that is read itself. -/
theorem prepend_some (c : Char) (text rest : List Char) :
    prepend c (some (text, rest)) = some (c :: text, rest) := rfl

/-! ## Strings on one line -/

theorem readBasic_of_escape {s rest : List Char} {c : Char} (h : readEscape s = some (c, rest)) :
    readBasic ('\\' :: s) = prepend c (readBasic rest) := by
  rw [readBasic]
  split <;> simp_all

theorem readBasic_of_plain {c : Char} (hplain : isPlain c = true) (hquote : c ≠ '"')
    (hslash : c ≠ '\\') (s : List Char) : readBasic (c :: s) = prepend c (readBasic s) := by
  rw [readBasic, if_pos hplain]
  · simpa using hquote
  · simpa using hslash

theorem writeBasic_cons (c : Char) (s : List Char) :
    writeBasic (c :: s) =
      (if c = '"' then ['\\', '"'] else if c = '\n' then ['\\', 'n'] else writeChar c) ++
        writeBasic s := List.flatMap_cons

theorem readBasic_writeBasic (s rest : List Char) :
    readBasic (writeBasic s ++ '"' :: rest) = some (s, rest) := by
  induction s with
  | nil => rw [writeBasic, List.flatMap_nil, List.nil_append, readBasic]
  | cons c s ih =>
    have hescape {escape : List Char} (h : ∀ rest, readEscape (escape ++ rest) = some (c, rest)) :
        readBasic ('\\' :: escape ++ writeBasic s ++ '"' :: rest) = some (c :: s, rest) := by
      rw [List.append_assoc, List.cons_append, readBasic_of_escape (h _), ih, prepend_some]
    rw [writeBasic_cons]
    split
    · rename_i hquote
      subst hquote
      exact @hescape ['"'] fun _ => rfl
    · rename_i hquote
      split
      · rename_i hline
        subst hline
        exact @hescape ['n'] fun _ => rfl
      · rename_i hline
        rcases writeChar_cases hline with ⟨hwrite, hplain, hslash⟩ | ⟨escape, hwrite, hread⟩
        · rw [hwrite, List.append_assoc, List.singleton_append,
            readBasic_of_plain hplain hquote hslash, ih, prepend_some]
        · rw [hwrite]
          exact hescape hread

theorem readLiteral_append {s : List Char} (h : ∀ c ∈ s, isPlain c = true ∧ c ≠ '\'')
    (rest : List Char) : readLiteral (s ++ '\'' :: rest) = some (s, rest) := by
  induction s with
  | nil => rfl
  | cons c s ih =>
    rw [List.forall_mem_cons] at h
    obtain ⟨⟨hplain, hquote⟩, hs⟩ := h
    rw [List.cons_append, readLiteral, if_pos hplain, ih hs, prepend_some]
    simpa using hquote

/-! ## Strings on several lines -/

/-- Three quotes of a kind in front of a text. -/
def tripled (quote : Char) (rest : List Char) : List Char := quote :: quote :: quote :: rest

theorem ne_cons_of_head?_ne {quote : Char} {rest : List Char} (h : rest.head? ≠ some quote)
    (s : List Char) : rest ≠ quote :: s := by
  rintro rfl
  exact h rfl

/-- Whether a text starts with two quotes of a kind. -/
def StartsTwice (quote : Char) (s : List Char) : Prop := ∃ rest, s = quote :: quote :: rest

theorem readLongBasic_of_escape {s rest : List Char} {c : Char}
    (h : readEscape s = some (c, rest)) :
    readLongBasic ('\\' :: s) = prepend c (readLongBasic rest) := by
  rw [readLongBasic]
  split <;> simp_all

theorem readLongBasic_of_plain {c : Char} (hplain : isPlain c = true) (hquote : c ≠ '"')
    (hslash : c ≠ '\\') (s : List Char) :
    readLongBasic (c :: s) = prepend c (readLongBasic s) := by
  obtain ⟨hline, hreturn⟩ := ne_of_isPlain hplain
  rw [readLongBasic, if_pos hplain] <;> simp_all

/-- A quote that does not stand in front of two others is a character like any other. -/
theorem readLongBasic_of_quote {s : List Char} (h : ¬ StartsTwice '"' s) :
    readLongBasic ('"' :: s) = prepend '"' (readLongBasic s) := by
  rw [readLongBasic, if_pos (by decide)]
  all_goals
    intros
    simp_all [StartsTwice]

/-- Up to two quotes in front of the closing ones belong to the text. -/
theorem readLongBasic_tripled {rest : List Char} (hrest : rest.head? ≠ some '"') :
    readLongBasic (tripled '"' rest) = some ([], rest) ∧
      readLongBasic ('"' :: tripled '"' rest) = some (['"'], rest) ∧
      readLongBasic ('"' :: '"' :: tripled '"' rest) = some (['"', '"'], rest) := by
  have hone := ne_cons_of_head?_ne hrest
  have htwo : ∀ s, rest ≠ '"' :: '"' :: s := fun s => hone ('"' :: s)
  refine ⟨?_, ?_, ?_⟩
  · rw [tripled, readLongBasic]
    · exact htwo
    · exact hone
  · rw [tripled, readLongBasic]
    exact hone
  · rw [tripled, readLongBasic]

/-- A text is written with a quote in front only if it starts with one and the quote is not the
third in a row. -/
theorem eq_quote_of_head?_writeLongBasic {quotes : Nat} {c : Char} {s more : List Char}
    (h : (writeLongBasic quotes (c :: s) ++ more).head? = some '"') : c = '"' ∧ quotes ≠ 2 := by
  rw [writeLongBasic] at h
  split at h
  · rename_i hquote
    split at h
    · simp at h
    · rename_i hquotes
      exact ⟨hquote, hquotes⟩
  · rename_i hquote
    split at h
    · simp at h
    · rename_i hline
      obtain ⟨d, escape, hwrite, hd, -⟩ := writeChar_eq_cons hline
      rw [hwrite, List.cons_append, List.cons_append, List.head?_cons, Option.some.injEq] at h
      subst h
      rcases hd with hd | hd
      · exact absurd hd.symm hquote
      · simp at hd

/-- Behind one or two quotes, two more are there only where the text ends. -/
theorem eq_of_startsTwice_writeLongBasic {quotes : Nat} (hquotes : quotes = 1 ∨ quotes = 2)
    {s rest : List Char} (h : StartsTwice '"' (writeLongBasic quotes s ++ tripled '"' rest)) :
    s = [] ∨ (quotes = 1 ∧ s = ['"']) := by
  obtain ⟨more, heq⟩ := h
  cases s with
  | nil => exact Or.inl rfl
  | cons c s =>
    obtain ⟨rfl, hfew⟩ := eq_quote_of_head?_writeLongBasic (by rw [heq, List.head?_cons])
    obtain rfl : quotes = 1 := hquotes.resolve_right hfew
    rw [writeLongBasic, if_pos rfl, if_neg hfew, List.cons_append, List.cons.injEq] at heq
    cases s with
    | nil => exact Or.inr ⟨rfl, rfl⟩
    | cons d s =>
      -- a third quote would have been escaped
      have hthird := eq_quote_of_head?_writeLongBasic (by rw [heq.2, List.head?_cons])
      exact absurd rfl hthird.2

/-- What is written for a text behind up to two quotes is read as the text. -/
theorem readLongBasic_writeLongBasic {quotes : Nat} (hquotes : quotes ≤ 2) (s : List Char)
    {rest : List Char} (hrest : rest.head? ≠ some '"') :
    readLongBasic (writeLongBasic quotes s ++ tripled '"' rest) = some (s, rest) := by
  induction s generalizing quotes with
  | nil => exact (readLongBasic_tripled hrest).1
  | cons c s ih =>
    have hescape {escape : List Char} (h : ∀ rest, readEscape (escape ++ rest) = some (c, rest)) :
        readLongBasic ('\\' :: escape ++ writeLongBasic 0 s ++ tripled '"' rest) =
          some (c :: s, rest) := by
      rw [List.append_assoc, List.cons_append, readLongBasic_of_escape (h _),
        ih (Nat.zero_le 2), prepend_some]
    rw [writeLongBasic]
    split
    · rename_i hquote
      subst hquote
      split
      · exact @hescape ['"'] fun _ => rfl
      · rename_i hfew
        by_cases htwice : StartsTwice '"' (writeLongBasic (quotes + 1) s ++ tripled '"' rest)
        · -- the text ends here, in one or two quotes
          rcases eq_of_startsTwice_writeLongBasic (by omega) htwice with rfl | ⟨hzero, rfl⟩
          · exact (readLongBasic_tripled hrest).2.1
          · obtain rfl : quotes = 0 := by omega
            exact (readLongBasic_tripled hrest).2.2
        · rw [List.cons_append, readLongBasic_of_quote htwice, ih (by omega), prepend_some]
    · rename_i hquote
      split
      · rename_i hline
        subst hline
        rw [List.cons_append, readLongBasic, ih (Nat.zero_le 2), prepend_some]
      · rename_i hline
        rcases writeChar_cases hline with ⟨hwrite, hplain, hslash⟩ | ⟨escape, hwrite, hread⟩
        · rw [hwrite, List.append_assoc, List.singleton_append,
            readLongBasic_of_plain hplain hquote hslash, ih (Nat.zero_le 2), prepend_some]
        · rw [hwrite]
          exact hescape hread

/-! ## Strings on several lines without escapes -/

theorem readLongLiteral_of_plain {c : Char} (hplain : isPlain c = true) (hquote : c ≠ '\'')
    (s : List Char) : readLongLiteral (c :: s) = prepend c (readLongLiteral s) := by
  obtain ⟨hline, hreturn⟩ := ne_of_isPlain hplain
  rw [readLongLiteral, if_pos hplain] <;> simp_all

/-- A quote that does not stand in front of two others is a character like any other. -/
theorem readLongLiteral_of_quote {s : List Char} (h : ¬ StartsTwice '\'' s) :
    readLongLiteral ('\'' :: s) = prepend '\'' (readLongLiteral s) := by
  rw [readLongLiteral, if_pos (by decide)]
  all_goals
    intros
    simp_all [StartsTwice]

/-- Up to two quotes in front of the closing ones belong to the text. -/
theorem readLongLiteral_tripled {rest : List Char} (hrest : rest.head? ≠ some '\'') :
    readLongLiteral (tripled '\'' rest) = some ([], rest) ∧
      readLongLiteral ('\'' :: tripled '\'' rest) = some (['\''], rest) ∧
      readLongLiteral ('\'' :: '\'' :: tripled '\'' rest) = some (['\'', '\''], rest) := by
  have hone := ne_cons_of_head?_ne hrest
  have htwo : ∀ s, rest ≠ '\'' :: '\'' :: s := fun s => hone ('\'' :: s)
  refine ⟨?_, ?_, ?_⟩
  · rw [tripled, readLongLiteral]
    · exact htwo
    · exact hone
  · rw [tripled, readLongLiteral]
    exact hone
  · rw [tripled, readLongLiteral]

theorem hasTriple_tail {quote c : Char} {s : List Char} (h : hasTriple quote (c :: s) = false) :
    hasTriple quote s = false := by
  cases s with
  | nil => rfl
  | cons d s =>
    cases s with
    | nil => rfl
    | cons e s =>
      rw [hasTriple, Bool.or_eq_false_iff] at h
      exact h.2

/-- Behind a quote of a text without three in a row, two more are there only where the text ends. -/
theorem eq_of_startsTwice_append {quote : Char} {s rest : List Char}
    (htriple : hasTriple quote (quote :: s) = false)
    (h : StartsTwice quote (s ++ tripled quote rest)) : s = [] ∨ s = [quote] := by
  obtain ⟨more, heq⟩ := h
  match s with
  | [] => exact Or.inl rfl
  | [c] => exact Or.inr (by rw [(List.cons.inj heq).1])
  | c :: d :: s =>
    obtain ⟨rfl, heq⟩ := List.cons.inj heq
    obtain ⟨rfl, -⟩ := List.cons.inj heq
    simp [hasTriple] at htriple

theorem readLongLiteral_append {s : List Char} (h : ∀ c ∈ s, isPlain c = true ∨ c = '\n')
    (htriple : hasTriple '\'' s = false) {rest : List Char} (hrest : rest.head? ≠ some '\'') :
    readLongLiteral (s ++ tripled '\'' rest) = some (s, rest) := by
  induction s with
  | nil => exact (readLongLiteral_tripled hrest).1
  | cons c s ih =>
    rw [List.forall_mem_cons] at h
    have hrec := ih h.2 (hasTriple_tail htriple)
    by_cases hquote : c = '\''
    · subst hquote
      by_cases htwice : StartsTwice '\'' (s ++ tripled '\'' rest)
      · -- the text ends here, in one or two quotes
        rcases eq_of_startsTwice_append htriple htwice with rfl | rfl
        · exact (readLongLiteral_tripled hrest).2.1
        · exact (readLongLiteral_tripled hrest).2.2
      · rw [List.cons_append, readLongLiteral_of_quote htwice, hrec, prepend_some]
    · rcases h.1 with hplain | rfl
      · rw [List.cons_append, readLongLiteral_of_plain hplain hquote, hrec, prepend_some]
      · rw [List.cons_append, readLongLiteral, hrec, prepend_some]

/-! ## All forms -/

/-- What may follow a string: anything but a quote. -/
def Unquoted (rest : List Char) : Prop := rest.head? ≠ some '"' ∧ rest.head? ≠ some '\''

/-- A text on one line is written without a quote in front. -/
theorem head?_writeBasic_ne (c : Char) (s more : List Char) :
    (writeBasic (c :: s) ++ more).head? ≠ some '"' := by
  rw [writeBasic_cons]
  split
  · simp
  · rename_i hquote
    split
    · simp
    · rename_i hline
      obtain ⟨d, escape, hwrite, hd, -⟩ := writeChar_eq_cons hline
      rw [hwrite, List.cons_append, List.cons_append, List.head?_cons]
      rcases hd with rfl | rfl
      · simpa using hquote
      · simp

theorem readString_basic (s : List Char) {rest : List Char} (hrest : Unquoted rest) :
    readString ('"' :: (writeBasic s ++ '"' :: rest)) = some (s, rest) := by
  rw [readString, readBasic_writeBasic]
  -- the text and what follows it are not taken for two more quotes
  intro more heq
  cases s with
  | nil =>
    rw [writeBasic, List.flatMap_nil, List.nil_append, List.cons.injEq] at heq
    exact hrest.1 (by rw [heq.2, List.head?_cons])
  | cons c s => exact head?_writeBasic_ne c s _ (by rw [heq, List.head?_cons])

theorem readString_literal {s : List Char} (h : ∀ c ∈ s, isPlain c = true ∧ c ≠ '\'')
    {rest : List Char} (hrest : Unquoted rest) :
    readString ('\'' :: (s ++ '\'' :: rest)) = some (s, rest) := by
  rw [readString, readLiteral_append h]
  intro more heq
  cases s with
  | nil =>
    rw [List.nil_append, List.cons.injEq] at heq
    exact hrest.2 (by rw [heq.2, List.head?_cons])
  | cons c s => exact (h c List.mem_cons_self).2 (List.cons.inj heq).1

theorem skipNewline_of_plain {s : List Char} (h : ∀ c ∈ s.head?, isPlain c = true) :
    skipNewline s = s := by
  unfold skipNewline readNewline
  split
  · exact absurd (h '\n' rfl) (by decide)
  · exact absurd (h '\r' rfl) (by decide)
  · rfl

/-- A text between three quotes and what follows it, character by character. -/
theorem between_append (quote : Char) (hasLines : Bool) (s rest : List Char) :
    between quote hasLines s ++ rest =
      tripled quote ((if hasLines then ['\n'] else []) ++ (s ++ tripled quote rest)) := by
  simp [between, tripled]

/-- The line end that is written in front of a text with line ends is dropped, and no other one. -/
theorem skipNewline_lead {hasLines : Bool} {s : List Char}
    (h : hasLines = false → ∀ c ∈ s.head?, isPlain c = true) :
    skipNewline ((if hasLines then ['\n'] else []) ++ s) = s := by
  cases hasLines with
  | true => rfl
  | false => exact skipNewline_of_plain (h rfl)

theorem readString_longBasic (s : List Char) {rest : List Char} (hrest : Unquoted rest) :
    readString (between '"' (s.contains '\n') (writeLongBasic 0 s) ++ rest) = some (s, rest) := by
  rw [between_append, tripled, readString, skipNewline_lead]
  · exact readLongBasic_writeLongBasic (Nat.zero_le 2) s hrest.1
  · intro hlines c hc
    cases s with
    | nil =>
      obtain rfl : '"' = c := by simpa [writeLongBasic, tripled] using hc
      rfl
    | cons d s =>
      have hline : d ≠ '\n' := by
        rintro rfl
        simp at hlines
      rw [writeLongBasic] at hc
      split at hc
      · obtain rfl : '"' = c := by simpa using hc
        rfl
      · obtain ⟨e, escape, hwrite, -, hplain⟩ := writeChar_eq_cons hline
        rw [hwrite, List.cons_append, List.cons_append, List.head?_cons, Option.mem_some_iff] at hc
        rwa [← hc]

theorem readString_longLiteral {s : List Char} (h : ∀ c ∈ s, isPlain c = true ∨ c = '\n')
    (htriple : hasTriple '\'' s = false) {rest : List Char} (hrest : Unquoted rest) :
    readString (between '\'' (s.contains '\n') s ++ rest) = some (s, rest) := by
  rw [between_append, tripled, readString, skipNewline_lead]
  · exact readLongLiteral_append h htriple hrest.2
  · intro hlines c hc
    cases s with
    | nil =>
      obtain rfl : '\'' = c := by simpa [tripled] using hc
      rfl
    | cons d s =>
      obtain rfl : d = c := by simpa using hc
      refine (h d List.mem_cons_self).resolve_right ?_
      rintro rfl
      simp at hlines

/-- Reading what is written for a string gives the string, whatever form was chosen for it. -/
theorem readString_writeString (s : List Char) {rest : List Char} (hrest : Unquoted rest) :
    readString (writeString s ++ rest) = some (s, rest) := by
  have hplain (hcontrol : s.any isControl = false) : ∀ c ∈ s, isPlain c = true ∨ c = '\n' := by
    intro c hc
    rw [List.any_eq_false] at hcontrol
    exact isPlain_of_not_isControl (by simpa using hcontrol c hc)
  have hbasic : readString ('"' :: writeBasic s ++ ['"'] ++ rest) = some (s, rest) := by
    rw [List.append_assoc]
    exact readString_basic s hrest
  unfold writeString
  dsimp only
  split
  · exact hbasic
  split
  · rename_i hform
    simp only [Bool.and_eq_true, Bool.not_eq_true'] at hform
    obtain ⟨⟨hlines, hcontrol⟩, hquote⟩ := hform
    have hchars : ∀ c ∈ s, isPlain c = true ∧ c ≠ '\'' := by
      intro c hc
      refine ⟨(hplain hcontrol c hc).resolve_right ?_, ?_⟩
      · rintro rfl
        simp [hc] at hlines
      · rintro rfl
        simp [hc] at hquote
    rw [List.append_assoc]
    exact readString_literal hchars hrest
  split
  · exact readString_longBasic s hrest
  split
  · rename_i hform
    simp only [Bool.and_eq_true, Bool.not_eq_true'] at hform
    exact readString_longLiteral (hplain hform.1) hform.2 hrest
  split
  · exact readString_longBasic s hrest
  · exact hbasic

end StackMachine.Toml
