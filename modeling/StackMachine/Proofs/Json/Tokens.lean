import StackMachine.Json.Item
import StackMachine.Proofs.Json.Numbers
import StackMachine.Proofs.Json.Strings

/-!
# Tokens of the grammar and their readers

What the readers do between values: at blanks, brackets, commas, colons and keys. The text of an
object or a list is taken apart at the characters with which its entries start, which are neither
blanks nor closing brackets.
-/

namespace StackMachine.Json

/-! ## Readings -/

/-- What a reader gives is what has the property, and then the rest is left. -/
def Finds {α : Type} (reading : Reading α) (P : α → Prop) (rest : List Char) : Prop :=
  ∀ a after, reading = .ok (a, after) ↔ P a ∧ after = rest

section Finds

variable {α β : Type} {P : α → Prop} {rest : List Char}

theorem finds_ok (a : α) (rest : List Char) : Finds (.ok (a, rest)) (fun b => b = a) rest := by
  intro b after
  rw [Except.ok.injEq, Prod.mk.injEq, eq_comm, @eq_comm _ rest]

theorem finds_map_ok (computed : Except Fault α) (f : α → β) (rest : List Char) :
    Finds (computed.map fun a => (f a, rest)) (fun b => ∃ a, computed = .ok a ∧ b = f a) rest := by
  intro b after
  cases computed with
  | error fault => simp [Except.map]
  | ok a => simp [Except.map, eq_comm]

theorem finds_error {fault : Fault} (h : ∀ a, ¬ P a) : Finds (.error fault) P rest := by
  intro a after
  simp [h a]

/-- The property may be put in other words. -/
theorem Finds.congr {Q : α → Prop} {reading : Reading α} (h : Finds reading P rest)
    (hiff : ∀ a, P a ↔ Q a) : Finds reading Q rest := by
  intro a after
  rw [h a after, hiff a]

theorem Finds.eq_ok {reading : Reading α} (h : Finds reading P rest) {a : α} (ha : P a) :
    reading = .ok (a, rest) :=
  (h a rest).mpr ⟨ha, rfl⟩

/-- Readers that follow one another find what they find one after the other. -/
theorem Finds.bind {Q : α → β → Prop} {reading : Reading α} {next : α × List Char → Reading β}
    {after : List Char} (h : Finds reading P rest)
    (hnext : ∀ a, P a → Finds (next (a, rest)) (Q a) after) :
    Finds (reading.bind next) (fun b => ∃ a, P a ∧ Q a b) after := by
  intro b end'
  cases reading with
  | error fault =>
    refine iff_of_false (by simp [Except.bind]) ?_
    rintro ⟨⟨a, ha, -⟩, -⟩
    exact absurd (h.eq_ok ha) (by simp)
  | ok pair =>
    obtain ⟨a, rest'⟩ := pair
    obtain ⟨ha, rfl⟩ := (h a rest').mp rfl
    show next (a, rest') = .ok (b, end') ↔ _
    rw [hnext a ha b end']
    constructor
    · rintro ⟨hb, rfl⟩
      exact ⟨⟨a, ha, hb⟩, rfl⟩
    · rintro ⟨⟨a', ha', hb⟩, rfl⟩
      obtain rfl : a = a' := by
        have := h.eq_ok ha'
        simp only [Except.ok.injEq, Prod.mk.injEq] at this
        exact this.1
      exact ⟨hb, rfl⟩

theorem Finds.map {reading : Reading α} (h : Finds reading P rest) (f : α → β) :
    Finds (reading.map fun p => (f p.1, p.2)) (fun b => ∃ a, P a ∧ b = f a) rest := by
  have hbind : (reading.map fun p => (f p.1, p.2)) =
      reading.bind fun p => .ok (f p.1, p.2) := by
    cases reading <;> rfl
  rw [hbind]
  exact h.bind fun a _ => finds_ok (f a) rest

end Finds

/-! ## Blanks -/

theorem isBlank_iff {c : Char} : isBlank c = true ↔ c ∈ [' ', '\t', '\n', '\r'] := by
  simp [isBlank, or_assoc]

theorem skipBlanks_append {a : List Char} (ha : Blanks a) (s : List Char) :
    skipBlanks (a ++ s) = skipBlanks s :=
  List.dropWhile_append_of_pos fun c hc => isBlank_iff.mpr (ha c hc)

theorem skipBlanks_cons {c : Char} (hc : isBlank c = false) (s : List Char) :
    skipBlanks (c :: s) = c :: s := by
  rw [skipBlanks, List.dropWhile_cons_of_neg]
  rw [hc]
  exact Bool.false_ne_true

theorem skipBlanks_append_cons {a : List Char} (ha : Blanks a) {c : Char}
    (hc : isBlank c = false) (s : List Char) : skipBlanks (a ++ c :: s) = c :: s := by
  rw [skipBlanks_append ha, skipBlanks_cons hc]

theorem blanks_nil : Blanks [] := by
  intro c hc
  simp at hc

theorem Bracket.isBlank_closing (bracket : Bracket) : isBlank bracket.closing = false := by
  cases bracket <;> rfl

theorem Bracket.stops_closing (bracket : Bracket) (s : List Char) :
    Stops (bracket.closing :: s) := by
  cases bracket <;> exact stops_cons (by decide) s

/-- Skipping blanks twice is skipping them once. -/
theorem skipBlanks_skipBlanks (s : List Char) : skipBlanks (skipBlanks s) = skipBlanks s := by
  cases hs : skipBlanks s with
  | nil => rfl
  | cons c rest =>
    have hc := List.head?_dropWhile_not isBlank s
    rw [← skipBlanks, hs] at hc
    exact skipBlanks_cons (by simpa using hc) rest

theorem expectEnd_of_blanks {b : List Char} (hb : Blanks b) : expectEnd b = .ok () := by
  have hskip : skipBlanks b = [] := by
    have := skipBlanks_append hb []
    rwa [List.append_nil] at this
  rw [expectEnd, hskip]

theorem blanks_of_expectEnd {s : List Char} (h : expectEnd s = .ok ()) : Blanks s := by
  have hskip : skipBlanks s = [] := by
    unfold expectEnd at h
    split at h
    · assumption
    · simp at h
  have hall : s.takeWhile isBlank = s := by
    have happend : s.takeWhile isBlank ++ skipBlanks s = s := List.takeWhile_append_dropWhile
    rwa [hskip, List.append_nil] at happend
  intro c hc
  rw [← hall] at hc
  exact isBlank_iff.mp (List.all_eq_true.mp List.all_takeWhile c hc)

/-! ## Keys and colons -/

theorem readColon_of_blanks {b : List Char} (hb : Blanks b) (rest : List Char) :
    readColon (b ++ ':' :: rest) = .ok rest := by
  rw [readColon, skipBlanks_append_cons hb rfl]
  rfl

theorem skipKey_of_spells {key : List Nat} {a body b : List Char} (ha : Blanks a)
    (hkey : Spells key body) (hb : Blanks b) (rest : List Char) :
    skipKey (a ++ '"' :: (body ++ '"' :: (b ++ ':' :: rest))) = .ok rest := by
  rw [skipKey, skipBlanks_append_cons ha rfl]
  simp only [skipString_of_spells hkey, readColon_of_blanks hb]

/-- A spelling is read as the text with its code units. -/
theorem finds_string {units : List Nat} {body : List Char} (h : Spells units body)
    (rest : List Char) :
    Finds ((readString (body ++ '"' :: rest)).map fun p => (String.ofList p.1, p.2))
      (fun text => unitsOf text.toList = units) rest := by
  have hread : Finds (readString (body ++ '"' :: rest)) (fun text => unitsOf text = units) rest :=
    fun _ _ => readString_eq_ok_iff h
  refine (hread.map String.ofList).congr fun text => ?_
  constructor
  · rintro ⟨chars, hchars, rfl⟩
    rwa [String.toList_ofList]
  · intro htext
    exact ⟨text.toList, htext, String.ofList_toList.symm⟩

theorem finds_readKey {key : String} {body : List Char} (h : Spells (unitsOf key.toList) body)
    (rest : List Char) :
    Finds (readKey ('"' :: (body ++ '"' :: rest))) (fun k => k = key) rest := by
  have hmap : readKey ('"' :: (body ++ '"' :: rest)) =
      (readString (body ++ '"' :: rest)).map fun p => (String.ofList p.1, p.2) := by
    rw [readKey]
    cases readString (body ++ '"' :: rest) <;> rfl
  rw [hmap]
  exact (finds_string h rest).congr fun k => by rw [unitsOf_inj, String.toList_inj]

/-- The text of a member, token by token. -/
theorem member_append (a body b c text d s : List Char) :
    a ++ '"' :: body ++ '"' :: b ++ ':' :: c ++ text ++ d ++ s =
      a ++ '"' :: (body ++ '"' :: (b ++ ':' :: (c ++ (text ++ (d ++ s))))) := by
  simp only [List.append_assoc, List.cons_append]

/-! ## Starts -/

theorem isBlank_of_numberStart {c : Char} (hc : c = '-' ∨ c.isDigit = true) :
    isBlank c = false := by
  rw [Bool.eq_false_iff, Ne, isBlank_iff]
  intro hblank
  simp only [List.mem_cons, List.not_mem_nil, or_false] at hblank
  rcases hblank with rfl | rfl | rfl | rfl <;> exact ne_of_numberStart hc (by decide) rfl

/-- A value starts with a character that is no blank and that does not end a bracket. -/
theorem Renders.start {tree : Tree} {text : List Char} (h : Renders tree text) :
    ∃ c s, text = c :: s ∧ isBlank c = false ∧ ∀ bracket : Bracket, c ≠ bracket.closing := by
  have hclosing : ∀ c : Char, c ≠ ']' → c ≠ '}' → ∀ bracket : Bracket, c ≠ bracket.closing := by
    intro c hlist hobject bracket
    cases bracket
    · exact hlist
    · exact hobject
  cases h with
  | null | trueWord | falseWord | string _ | list _ _ | object _ _ =>
    exact ⟨_, _, rfl, rfl, hclosing _ (by decide) (by decide)⟩
  | number hnumber =>
    obtain ⟨c, s, rfl, hc⟩ := hnumber.start
    exact ⟨c, s, rfl, isBlank_of_numberStart hc,
      hclosing c (ne_of_numberStart hc (by decide)) (ne_of_numberStart hc (by decide))⟩

/-- What stands after blanks and a value is not looked at in order to find the value. -/
theorem Renders.skipBlanks_append {tree : Tree} {text : List Char} (h : Renders tree text)
    {a : List Char} (ha : Blanks a) (rest : List Char) :
    skipBlanks (a ++ (text ++ rest)) = text ++ rest := by
  obtain ⟨c, s, rfl, hc, -⟩ := h.start
  exact skipBlanks_append_cons ha hc (s ++ rest)

/-! ## Items of brackets -/

/-- What follows an entry of a bracket: the other entries, each behind a comma, the end of the
bracket, and the characters behind it. -/
def Bracket.remainder (bracket : Bracket) (entries : List (List Char)) (rest : List Char) :
    List Char :=
  (entries.flatMap fun next => ',' :: next) ++ bracket.closing :: rest

theorem remainder_nil (bracket : Bracket) (rest : List Char) :
    bracket.remainder [] rest = bracket.closing :: rest := rfl

theorem remainder_cons (bracket : Bracket) (next : List Char) (entries : List (List Char))
    (rest : List Char) :
    bracket.remainder (next :: entries) rest = ',' :: (next ++ bracket.remainder entries rest) := by
  rw [Bracket.remainder, List.flatMap_cons, List.cons_append, List.cons_append, List.append_assoc]
  rfl

/-- What stands between two brackets, and the closing bracket. -/
theorem Encloses.append_closing {entries : List (List Char)} {inner : List Char}
    (h : Encloses entries inner) (bracket : Bracket) (rest : List Char) :
    (entries = [] ∧ ∃ blanks, Blanks blanks ∧
      inner ++ bracket.closing :: rest = blanks ++ bracket.closing :: rest) ∨
    ∃ entry others, entries = entry :: others ∧
      inner ++ bracket.closing :: rest = entry ++ bracket.remainder others rest := by
  cases h with
  | none hblanks => exact Or.inl ⟨rfl, _, hblanks, rfl⟩
  | some entry others => exact Or.inr ⟨entry, others, rfl, List.append_assoc _ _ _⟩

/-- Behind an entry stand a comma or the end of the bracket, neither of which continues a number. -/
theorem stops_remainder (bracket : Bracket) (entries : List (List Char)) (rest : List Char) :
    Stops (bracket.remainder entries rest) := by
  cases entries with
  | nil => exact bracket.stops_closing rest
  | cons next entries =>
    rw [remainder_cons]
    exact stops_cons (by decide) _

theorem startItem_of_closing {bracket : Bracket} {a : List Char} (ha : Blanks a) (first : Bool)
    (rest : List Char) :
    startItem bracket first (a ++ bracket.closing :: rest) = .ok (.close rest) := by
  rw [startItem, skipBlanks_append_cons ha bracket.isBlank_closing]
  exact if_pos rfl

theorem startItem_of_first {bracket : Bracket} {s : List Char}
    (hs : ∃ c rest, skipBlanks s = c :: rest ∧ c ≠ bracket.closing) :
    startItem bracket true s = .ok (.item (skipBlanks s)) := by
  obtain ⟨c, rest, hskip, hc⟩ := hs
  rw [startItem, hskip]
  simp only [if_neg hc, if_true]

theorem startItem_of_next {bracket : Bracket} {a s : List Char} (ha : Blanks a)
    (hs : ∃ c rest, skipBlanks s = c :: rest ∧ c ≠ bracket.closing) :
    startItem bracket false (a ++ ',' :: s) = .ok (.item (skipBlanks s)) := by
  obtain ⟨c, rest, hskip, hc⟩ := hs
  have hcomma : ',' ≠ bracket.closing := by
    cases bracket <;> decide
  rw [startItem, skipBlanks_append_cons ha rfl]
  simp only [if_neg hcomma, Bool.false_eq_true, if_false, if_true, hskip, if_neg hc]

end StackMachine.Json
