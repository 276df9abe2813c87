import StackMachine.Json.Document
import StackMachine.Proofs.Arithmetic
import StackMachine.Proofs.Json.Written

/-!
# Values that are written and read

A value comes back from its text if its brackets are not nested too deeply and its numbers are
integers that 64 bits can hold, with or without sign (`Value.Plain.parse_render`). Its text is one
line without control characters, whatever its strings hold (`Value.Plain.oneLine_render`).
-/

namespace StackMachine.Json

/-! ## What can come back -/

/-- The values whose brackets are nested at most so deep and whose numbers are integers that 64 bits
can hold. -/
inductive Value.Plain : Nat → Value → Prop
  | null {depth : Nat} : Plain depth .null
  | boolean {depth : Nat} (value : Bool) : Plain depth (.boolean value)
  | integer {depth : Nat} {n : Int}
      (h : -9223372036854775808 ≤ n ∧ n ≤ 18446744073709551615) : Plain depth (.integer n)
  | string {depth : Nat} (s : String) : Plain depth (.string s)
  | list {depth : Nat} {items : List Value} (h : ∀ item ∈ items, Plain depth item) :
      Plain (depth + 1) (.list items)
  | object {depth : Nat} {members : List (String × Value)}
      (h : ∀ member ∈ members, Plain depth member.2) : Plain (depth + 1) (.object members)

theorem plain_integers (depth : Nat) (values : List Int64) :
    (Value.integers values).Plain (depth + 1) := by
  refine .list fun item hitem => ?_
  obtain ⟨value, -, rfl⟩ := List.mem_map.mp hitem
  have hfits := Arithmetic.fits_toInt value
  unfold Arithmetic.Fits at hfits
  exact .integer (by omega)

theorem plain_strings (depth : Nat) (values : List String) :
    (Value.list (values.map .string)).Plain (depth + 1) := by
  refine .list fun item hitem => ?_
  obtain ⟨value, -, rfl⟩ := List.mem_map.mp hitem
  exact .string value

/-! ## Reading scalars -/

theorem readNumber_writeInteger {n : Int}
    (hn : -9223372036854775808 ≤ n ∧ n ≤ 18446744073709551615) {rest : List Char}
    (hrest : Stops rest) : readNumber (writeInteger n ++ rest) = .ok (.integer n, rest) := by
  have hvalue : (integerLiteral n).value = .ok (.integer n) :=
    (value_eq_integer_iff (wholeText_digitsOf _) hn).mpr (isInteger_integerLiteral n)
  rw [readNumber_of_numberText (numberText_writeInteger n) hrest, hvalue]
  rfl

theorem readString_writeString (s : String) (rest : List Char) :
    readString (s.toList.flatMap writeChar ++ '"' :: rest) = .ok (s.toList, rest) :=
  (readString_eq_ok_iff (spells_flatMap_writeChar s.toList)).mpr ⟨rfl, rfl⟩

/-- An integer starts with its sign or a digit. -/
theorem writeInteger_start (n : Int) :
    ∃ c s, writeInteger n = c :: s ∧ (c = '-' ∨ c.isDigit = true) :=
  (numberText_writeInteger n).start

theorem readValue_of_numberStart {depth : Nat} {c : Char} (hc : c = '-' ∨ c.isDigit = true)
    (s : List Char) :
    readValue depth (c :: s) =
      (readNumber (c :: s)).map fun (number, rest) => (.number number, rest) := by
  have hne {d : Char} (hd : d ≠ '-' ∧ d.isDigit = false) : c ≠ d := ne_of_numberStart hc hd
  unfold readValue
  rw [skipBlanks_cons (isBlank_of_numberStart hc)]
  split
  case h_8 heq =>
    obtain ⟨rfl, rfl⟩ := List.cons.inj heq
    exact if_pos hc
  case h_1 => simp_all
  all_goals
    rename_i heq
    exact absurd (List.cons.inj heq).1 (hne (by decide))

/-! ## Reading brackets -/

/-- What follows an entry is at least as long as there are other entries. -/
theorem length_lt_remainder (bracket : Bracket) (entries : List (List Char)) (rest : List Char) :
    entries.length < (bracket.remainder entries rest).length := by
  induction entries with
  | nil => simp [remainder_nil]
  | cons next entries ih =>
    rw [remainder_cons, List.length_cons, List.length_cons, List.length_append]
    omega

section Items

variable {α : Type} {bracket : Bracket} {item : List Char → Reading α} {text : α → List Char}

theorem readItems_of_item {first : Bool} {s : List Char} {a : α} {after : List Char}
    (hstart : startItem bracket first s = .ok (.item (text a ++ after)))
    (hitem : item (text a ++ after) = .ok (a, after)) (bound : Nat) :
    readItems bracket item (bound + 1) first s =
      (readItems bracket item bound false after).map fun (as, rest) => (a :: as, rest) := by
  rw [readItems, hstart]
  simp only [hitem]

/-- The start of an entry is found where the entry stands. -/
def Starts (bracket : Bracket) (entry : List Char) : Prop :=
  ∃ c s, entry = c :: s ∧ isBlank c = false ∧ c ≠ bracket.closing

theorem Starts.skipBlanks_append {entry : List Char} (h : Starts bracket entry)
    (rest : List Char) :
    skipBlanks (entry ++ rest) = entry ++ rest ∧
      ∃ c s, skipBlanks (entry ++ rest) = c :: s ∧ c ≠ bracket.closing := by
  obtain ⟨c, s, rfl, hblank, hclosing⟩ := h
  have hskip : skipBlanks (c :: (s ++ rest)) = c :: (s ++ rest) := skipBlanks_cons hblank _
  exact ⟨hskip, c, s ++ rest, hskip, hclosing⟩

variable {as : List α} (hstarts : ∀ a ∈ as, Starts bracket (text a))
  (hitem : ∀ a ∈ as, ∀ rest, Stops rest → item (text a ++ rest) = .ok (a, rest))

include hstarts hitem

/-- The items that are left are read one after the other. -/
theorem readItems_remainder (rest : List Char) {bound : Nat} (hbound : as.length < bound) :
    readItems bracket item bound false (bracket.remainder (as.map text) rest) =
      .ok (as, rest) := by
  obtain ⟨bound, rfl⟩ : ∃ b, bound = b + 1 := ⟨bound - 1, by omega⟩
  induction as generalizing bound with
  | nil =>
    have hclose : startItem bracket false (bracket.closing :: rest) = .ok (.close rest) :=
      startItem_of_closing blanks_nil false rest
    rw [List.map_nil, remainder_nil, readItems, hclose]
  | cons a as ih =>
    rw [List.length_cons] at hbound
    obtain ⟨bound, rfl⟩ : ∃ b, bound = b + 1 := ⟨bound - 1, by omega⟩
    have hskip := (hstarts a List.mem_cons_self).skipBlanks_append
      (bracket.remainder (as.map text) rest)
    have hnext := startItem_of_next blanks_nil hskip.2
    rw [hskip.1, List.nil_append] at hnext
    have hrest := ih (fun b hb => hstarts b (List.mem_cons_of_mem a hb))
      (fun b hb => hitem b (List.mem_cons_of_mem a hb)) bound (by omega)
    rw [List.map_cons, remainder_cons, readItems_of_item hnext
      (hitem a List.mem_cons_self _ (stops_remainder bracket _ rest)), hrest]
    rfl

/-- All items of a bracket are read. -/
theorem readItems_enclosed {inner : List Char} (h : Encloses (as.map text) inner)
    (rest : List Char) :
    readItems bracket item ((inner ++ bracket.closing :: rest).length + 1) true
      (inner ++ bracket.closing :: rest) = .ok (as, rest) := by
  rcases h.append_closing bracket rest with
    ⟨hnil, blanks, hblanks, heq⟩ | ⟨entry, others, hcons, heq⟩
  · obtain rfl := List.map_eq_nil_iff.mp hnil
    rw [heq, readItems, startItem_of_closing hblanks]
  · cases as with
    | nil => simp at hcons
    | cons a as =>
      obtain ⟨rfl, rfl⟩ := List.cons.inj hcons
      have hskip := (hstarts a List.mem_cons_self).skipBlanks_append
        (bracket.remainder (as.map text) rest)
      have hfirst := startItem_of_first hskip.2
      rw [hskip.1] at hfirst
      have hbound := length_lt_remainder bracket (as.map text) rest
      rw [List.length_map] at hbound
      rw [heq, readItems_of_item hfirst
        (hitem a List.mem_cons_self _ (stops_remainder bracket _ rest)),
        readItems_remainder (fun b hb => hstarts b (List.mem_cons_of_mem a hb))
          (fun b hb => hitem b (List.mem_cons_of_mem a hb)) rest
          (by rw [List.length_append]; omega)]
      rfl

end Items

/-! ## Reading values -/

theorem Value.Plain.starts {depth : Nat} {value : Value} (h : value.Plain depth)
    (bracket : Bracket) : Starts bracket value.write := by
  have hclosing {c : Char} (hc : c ≠ ']' ∧ c ≠ '}') : c ≠ bracket.closing := by
    cases bracket with
    | list => exact hc.1
    | object => exact hc.2
  cases h with
  | null | string _ | list _ | object _ => exact ⟨_, _, rfl, rfl, hclosing (by decide)⟩
  | boolean value => cases value <;> exact ⟨_, _, rfl, rfl, hclosing (by decide)⟩
  | @integer _ n _ =>
    obtain ⟨c, s, htext, hc⟩ := writeInteger_start n
    exact ⟨c, s, htext, isBlank_of_numberStart hc, hclosing
      ⟨ne_of_numberStart hc (by decide), ne_of_numberStart hc (by decide)⟩⟩

theorem readEntry_writeMember {value : List Char → Reading Value} {member : String × Value}
    {rest : List Char} (h : value (member.2.write ++ rest) = .ok (member.2, rest)) :
    readEntry value (writeMember member ++ rest) = .ok (member, rest) := by
  have htext : writeMember member ++ rest =
      '"' :: (member.1.toList.flatMap writeChar ++ '"' :: ':' :: (member.2.write ++ rest)) := by
    simp [writeMember, writeString]
  have hcolon := readColon_of_blanks blanks_nil (member.2.write ++ rest)
  rw [List.nil_append] at hcolon
  rw [htext, readEntry, readKey, readString_writeString]
  simp only [hcolon, h, String.ofList_toList]
  rfl

/-- A plain value is read from its text. -/
theorem Value.Plain.readValue_write {depth : Nat} {value : Value} (h : value.Plain depth) :
    ∀ rest, Stops rest → readValue depth (value.write ++ rest) = .ok (value, rest) := by
  induction h with
  | null =>
    intro rest _
    rw [readValue]
    rfl
  | boolean value =>
    intro rest _
    rw [readValue]
    cases value <;> rfl
  | @integer depth n hn =>
    intro rest hrest
    have hread := readNumber_writeInteger hn hrest
    obtain ⟨c, s, htext, hc⟩ := writeInteger_start n
    rw [htext] at hread
    have hwrite : (Value.integer n).write = c :: s := htext
    rw [hwrite, List.cons_append, readValue_of_numberStart hc, ← List.cons_append, hread]
    rfl
  | string s =>
    intro rest _
    have htext : (Value.string s).write ++ rest =
        '"' :: (s.toList.flatMap writeChar ++ '"' :: rest) := by
      simp [Value.write, writeString]
    rw [htext, readValue, skipBlanks_cons rfl]
    simp only [readString_writeString, Except.map, String.ofList_toList]
  | @list depth items hitems ih =>
    intro rest _
    have htext : (Value.list items).write ++ rest =
        '[' :: (Value.writeItems items ++ ']' :: rest) := by
      simp [Value.write]
    have hread : readItems .list (readValue depth) _ true (_ ++ ']' :: rest) = .ok (items, rest) :=
      readItems_enclosed (fun item hmem => (hitems item hmem).starts .list) ih
        (encloses_writeItems items) rest
    rw [htext, readValue, skipBlanks_cons rfl]
    exact congrArg (Except.map _) hread
  | @object depth members hmembers ih =>
    intro rest _
    have htext : (Value.object members).write ++ rest =
        '{' :: (Value.writeMembers members ++ '}' :: rest) := by
      simp [Value.write]
    have hread : readItems .object (readEntry (readValue depth)) _ true (_ ++ '}' :: rest) =
        .ok (members, rest) :=
      readItems_enclosed (fun member _ => ⟨'"', _, rfl, rfl, by decide⟩)
        (fun member hmem rest hrest => readEntry_writeMember (ih member hmem rest hrest))
        (encloses_writeMembers members) rest
    rw [htext, readValue, skipBlanks_cons rfl]
    exact congrArg (Except.map _) hread

/-- A text that is written for a plain value holds that value. -/
theorem Value.Plain.parse_render {value : Value} (h : value.Plain greatestDepth) :
    parse value.render = .ok value := by
  have hread := h.readValue_write [] stops_nil
  rw [List.append_nil] at hread
  rw [parse, Value.render, String.toList_ofList, hread]
  rfl

/-! ## One line -/

/-- A text without control characters, of which line ends are some. -/
def OneLine (s : List Char) : Prop := ∀ c ∈ s, ' ' ≤ c

instance (s : List Char) : Decidable (OneLine s) :=
  List.decidableBAll _ s

theorem oneLine_nil : OneLine [] :=
  List.forall_mem_nil _

theorem oneLine_cons {c : Char} {s : List Char} : OneLine (c :: s) ↔ ' ' ≤ c ∧ OneLine s :=
  List.forall_mem_cons

theorem oneLine_append {s t : List Char} : OneLine (s ++ t) ↔ OneLine s ∧ OneLine t :=
  List.forall_mem_append

theorem oneLine_flatMap {α : Type} {as : List α} {f : α → List Char}
    (h : ∀ a ∈ as, OneLine (f a)) : OneLine (as.flatMap f) := by
  intro c hc
  obtain ⟨a, ha, hmem⟩ := List.mem_flatMap.mp hc
  exact h a ha c hmem

theorem OneLine.newline_not_mem {s : List Char} (h : OneLine s) : '\n' ∉ s :=
  fun hmem => absurd (h _ hmem) (by decide)

theorem space_le_hexDigit {n : Nat} (hn : n < 16) : ' ' ≤ hexDigit n := by
  have hall : ∀ k : Fin 16, ' ' ≤ hexDigit k.val := by decide
  exact hall ⟨n, hn⟩

/-- No control character is written as it is. -/
theorem oneLine_writeChar (c : Char) : OneLine (writeChar c) := by
  unfold writeChar
  split
  case h_8 =>
    split
    · rename_i hlow
      have hc : c.toNat < 32 := hlow
      simp only [oneLine_cons]
      exact ⟨by decide, by decide, by decide, by decide, space_le_hexDigit (by omega),
        space_le_hexDigit (by omega), oneLine_nil⟩
    · rename_i hlow
      exact oneLine_cons.mpr ⟨Char.not_lt.mp hlow, oneLine_nil⟩
  all_goals decide

theorem oneLine_writeString (s : String) : OneLine (writeString s) := by
  have hbody := oneLine_flatMap fun c (_ : c ∈ s.toList) => oneLine_writeChar c
  exact oneLine_append.mpr ⟨oneLine_cons.mpr ⟨by decide, hbody⟩, by decide⟩

theorem oneLine_of_digits {s : List Char} (h : ∀ c ∈ s, c.isDigit = true) : OneLine s := by
  intro c hc
  have hdigit := h c hc
  simp only [Char.isDigit, Bool.and_eq_true, decide_eq_true_eq] at hdigit
  exact Char.le_trans (by decide) hdigit.1

theorem oneLine_writeInteger (n : Int) : OneLine (writeInteger n) := by
  have hdigits := oneLine_of_digits (wholeText_digitsOf n.natAbs).1.2
  unfold writeInteger
  split
  · exact oneLine_cons.mpr ⟨by decide, hdigits⟩
  · exact hdigits

/-- Entries on one line are on one line with commas between them. -/
theorem oneLine_separated {entry : List Char} {entries : List (List Char)} (h : OneLine entry)
    (hentries : ∀ next ∈ entries, OneLine next) :
    OneLine (entry ++ entries.flatMap fun next => ',' :: next) :=
  oneLine_append.mpr ⟨h, oneLine_flatMap fun next hmem =>
    oneLine_cons.mpr ⟨by decide, hentries next hmem⟩⟩

theorem oneLine_writeItems {items : List Value} (h : ∀ item ∈ items, OneLine item.write) :
    OneLine (Value.writeItems items) := by
  cases items with
  | nil => exact oneLine_nil
  | cons item items =>
    rw [List.forall_mem_cons] at h
    rw [writeItems_cons]
    exact oneLine_separated h.1 (List.forall_mem_map.mpr h.2)

theorem oneLine_writeMembers {members : List (String × Value)}
    (h : ∀ member ∈ members, OneLine member.2.write) : OneLine (Value.writeMembers members) := by
  have hmember : ∀ member ∈ members, OneLine (writeMember member) := fun member hmem =>
    oneLine_append.mpr ⟨oneLine_writeString member.1,
      oneLine_cons.mpr ⟨by decide, h member hmem⟩⟩
  cases members with
  | nil => exact oneLine_nil
  | cons member members =>
    rw [List.forall_mem_cons] at hmember
    rw [writeMembers_cons]
    exact oneLine_separated hmember.1 (List.forall_mem_map.mpr hmember.2)

/-- The text of a plain value is one line. -/
theorem Value.Plain.oneLine_write {depth : Nat} {value : Value} (h : value.Plain depth) :
    OneLine value.write := by
  have hclosing {c : Char} (hc : ' ' ≤ c) {s : List Char} (hs : OneLine s) : OneLine (s ++ [c]) :=
    oneLine_append.mpr ⟨hs, oneLine_cons.mpr ⟨hc, oneLine_nil⟩⟩
  induction h with
  | null => decide
  | boolean value => cases value <;> decide
  | integer hn => exact oneLine_writeInteger _
  | string s => exact oneLine_writeString s
  | list _ ih =>
    exact oneLine_cons.mpr ⟨by decide, hclosing (by decide) (oneLine_writeItems ih)⟩
  | object _ ih =>
    exact oneLine_cons.mpr ⟨by decide, hclosing (by decide) (oneLine_writeMembers ih)⟩

theorem Value.Plain.oneLine_render {depth : Nat} {value : Value} (h : value.Plain depth) :
    OneLine value.render.toList := by
  rw [Value.render, String.toList_ofList]
  exact h.oneLine_write

end StackMachine.Json
