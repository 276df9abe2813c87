import StackMachine.Proofs.Toml.Strings
import StackMachine.Toml.Document

/-!
# Documents of lines

A document with one line for each entry, each with a bare key and a string or a flag, is read as
its entries (`parse_writeLines`): a key must only differ from those of the other lines.

A line is read by the lemmas on its parts, in the order in which the reader comes to them; the root
table then has one entry more, and an induction on the lines does the rest.
-/

namespace StackMachine.Toml

/-- A value that fits on a line: a string or a flag. -/
inductive Field where
  | text (value : String)
  | flag (value : Bool)

/-- A field as it is written. -/
def Field.write : Field → List Char
  | text s => writeString s.toList
  | flag b => (toString b).toList

/-- The value that a field holds. -/
def Field.value : Field → Value
  | text s => .string s
  | flag b => .boolean b

/-- A line with a key and a field. -/
def writeLine (entry : String × Field) : List Char :=
  entry.1.toList ++ " = ".toList ++ entry.2.write ++ ['\n']

/-- A document with one line for each entry. -/
def writeLines (entries : List (String × Field)) : List Char :=
  entries.flatMap writeLine

/-- A key that needs no quotes. -/
def IsBareKey (key : String) : Prop :=
  key.toList ≠ [] ∧ ∀ c ∈ key.toList, isBare c = true

instance (key : String) : Decidable (IsBareKey key) :=
  @instDecidableAnd _ _ inferInstance (List.decidableBAll _ key.toList)

/-! ## Space -/

theorem skipBlanks_cons {c : Char} (h : isBlank c = false) (s : List Char) :
    skipBlanks (c :: s) = c :: s :=
  List.dropWhile_cons_of_neg (by simp [h])

/-- The characters of bare keys are none of those that have a meaning. -/
theorem ne_of_isBare {c d : Char} (h : isBare c = true) (hd : isBare d = false) : c ≠ d := by
  rintro rfl
  rw [h] at hd
  cases hd

theorem isBlank_of_isBare {c : Char} (h : isBare c = true) : isBlank c = false := by
  simp only [isBlank, Bool.or_eq_false_iff, beq_eq_false_iff_ne]
  exact ⟨ne_of_isBare h rfl, ne_of_isBare h rfl⟩

theorem IsBareKey.eq_cons {key : String} (h : IsBareKey key) :
    ∃ c s, key.toList = c :: s ∧ isBare c = true := by
  obtain ⟨c, s, heq⟩ := List.exists_cons_of_ne_nil h.1
  exact ⟨c, s, heq, h.2 c (by rw [heq]; exact List.mem_cons_self)⟩

theorem skipSpace_of_isBare {c : Char} (h : isBare c = true) (s : List Char) :
    skipSpace (c :: s) = c :: s := by
  have hskip : skipComment (skipBlanks (c :: s)) = c :: s := by
    rw [skipBlanks_cons (isBlank_of_isBare h), skipComment]
    simpa using ne_of_isBare h (show isBare '#' = false by rfl)
  rw [skipSpace]
  split
  · rename_i hfront
    rw [hskip] at hfront
    exact absurd (List.cons.inj hfront).1 (ne_of_isBare h rfl)
  · rename_i hfront
    rw [hskip] at hfront
    exact absurd (List.cons.inj hfront).1 (ne_of_isBare h rfl)
  · exact hskip

/-! ## Keys and values -/

theorem readSimpleKey_bare {key : String} (hkey : IsBareKey key) {rest : List Char}
    (hrest : ∀ c ∈ rest.head?, isBare c = false) :
    readSimpleKey (key.toList ++ rest) = some (key, rest) := by
  have htake : (key.toList ++ rest).takeWhile isBare = key.toList := by
    rw [List.takeWhile_append_of_pos hkey.2]
    cases rest with
    | nil => exact List.append_nil _
    | cons c rest => rw [List.takeWhile_cons_of_neg (by simp [hrest c rfl]), List.append_nil]
  have hdrop : (key.toList ++ rest).dropWhile isBare = rest := by
    rw [List.dropWhile_append_of_pos hkey.2]
    cases rest with
    | nil => rfl
    | cons c rest => exact List.dropWhile_cons_of_neg (by simp [hrest c rfl])
  obtain ⟨c, s, heq, hbare⟩ := hkey.eq_cons
  rw [readSimpleKey, htake, hdrop]
  · split
    · rename_i hnil
      exact absurd hnil hkey.1
    · rw [String.ofList_toList]
  · rw [heq]
    rintro _ ⟨⟩
    cases hbare
  · rw [heq]
    rintro _ ⟨⟩
    cases hbare

theorem readKey_bare {key : String} (hkey : IsBareKey key) (rest : List Char) :
    readKey (key.toList ++ ' ' :: '=' :: rest) = some (([], key), '=' :: rest) := by
  have hskip : skipBlanks (key.toList ++ ' ' :: '=' :: rest) =
      key.toList ++ ' ' :: '=' :: rest := by
    obtain ⟨c, s, heq, hbare⟩ := hkey.eq_cons
    rw [heq, List.cons_append, skipBlanks_cons (isBlank_of_isBare hbare)]
  rw [readKey, keyLimit, readKeyParts, hskip, readSimpleKey_bare hkey (by rintro c ⟨⟩; rfl)]
  rfl

/-- A string starts with one of the two quotes. -/
theorem writeString_eq_cons (s : List Char) :
    ∃ quote more, writeString s = quote :: more ∧ (quote = '"' ∨ quote = '\'') := by
  unfold writeString
  dsimp only
  split
  · exact ⟨'"', _, rfl, Or.inl rfl⟩
  split
  · exact ⟨'\'', _, rfl, Or.inr rfl⟩
  split
  · exact ⟨'"', _, rfl, Or.inl rfl⟩
  split
  · exact ⟨'\'', _, rfl, Or.inr rfl⟩
  split
  · exact ⟨'"', _, rfl, Or.inl rfl⟩
  · exact ⟨'"', _, rfl, Or.inl rfl⟩

/-- What opens no bracket is a scalar. -/
theorem readValue_of_ne {c : Char} (hlist : c ≠ '[') (htable : c ≠ '{') (depth : Nat)
    (s : List Char) : readValue depth (c :: s) = readScalar (c :: s) := by
  rw [readValue]
  · simpa using hlist
  · simpa using htable

/-- A field is read from behind the blank in front of it up to the end of its line. -/
theorem Field.readValue_write (field : Field) (depth : Nat) (rest : List Char) :
    readValue depth (skipBlanks (' ' :: (field.write ++ '\n' :: rest))) =
      some (field.value, '\n' :: rest) := by
  have hscalar {c : Char} (hblank : isBlank c = false) (hlist : c ≠ '[') (htable : c ≠ '{')
      (s : List Char) : readValue depth (skipBlanks (' ' :: c :: s)) = readScalar (c :: s) := by
    have hskip : skipBlanks (' ' :: c :: s) = c :: s := skipBlanks_cons hblank s
    rw [hskip, readValue_of_ne hlist htable]
  cases field with
  | flag b =>
    cases b with
    | true => exact hscalar rfl (by decide) (by decide) _
    | false => exact hscalar rfl (by decide) (by decide) _
  | text s =>
    have hread : readString (writeString s.toList ++ '\n' :: rest) =
        some (s.toList, '\n' :: rest) := by
      refine readString_writeString s.toList ⟨?_, ?_⟩ <;> simp
    obtain ⟨quote, more, heq, hquote⟩ := writeString_eq_cons s.toList
    rw [Field.write]
    rw [heq, List.cons_append] at hread ⊢
    rcases hquote with rfl | rfl
    all_goals
      rw [hscalar rfl (by decide) (by decide), readScalar, hread]
      simp [Field.value]

/-! ## Lines -/

theorem readEntry_writeLine {entry : String × Field} (hkey : IsBareKey entry.1)
    (depth : Nat) (rest : List Char) :
    readEntry (readValue depth) (writeLine entry ++ rest) =
      some (⟨[], entry.1, entry.2.value⟩, '\n' :: rest) := by
  have hline : writeLine entry ++ rest =
      entry.1.toList ++ ' ' :: '=' :: ' ' :: (entry.2.write ++ '\n' :: rest) := by
    simp [writeLine]
  have hvalue := entry.2.readValue_write depth rest
  rw [hline, readEntry, readKey_bare hkey]
  simp only [hvalue, Option.map_some]

/-- A new key comes behind the others. -/
theorem Entries.set_of_lookup_eq_none {entries : Entries} {key : String}
    (h : entries.lookup key = none) (node : Node) :
    entries.set key node = entries ++ [(key, node)] := by
  induction entries with
  | nil => rfl
  | cons entry entries ih =>
    obtain ⟨name, old⟩ := entry
    rw [List.lookup_cons] at h
    split at h
    · cases h
    · rename_i hne
      have hne : name ≠ key := by
        rintro rfl
        simp at hne
      rw [Entries.set, if_neg hne, ih h, List.cons_append]

/-- Without a header, a value under a new key becomes the last entry of the document. -/
theorem Entries.insertAt_root {root : Entries} {key : String} (h : root.lookup key = none)
    (value : Value) : root.insertAt [] [] key value = some (root ++ [(key, .leaf value)]) := by
  rw [← Entries.set_of_lookup_eq_none h]
  simp [Entries.insertAt, Entries.insert, Entries.modify, h]

theorem readEntryLine_writeLine {entry : String × Field} (hkey : IsBareKey entry.1)
    {root : Entries} (hnew : root.lookup entry.1 = none) (rest : List Char) :
    readEntryLine ⟨root, []⟩ (writeLine entry ++ rest) =
      some (⟨root ++ [(entry.1, .leaf entry.2.value)], []⟩, rest) := by
  rw [readEntryLine, readEntry_writeLine hkey]
  dsimp only
  rw [Entries.insertAt_root hnew]
  rfl

/-- The part of a document that an entry becomes. -/
def leafOf (entry : String × Field) : String × Node :=
  (entry.1, .leaf entry.2.value)

/-- A document that starts with a line is read on behind that line. -/
theorem readLines_writeLine {entry : String × Field} (hkey : IsBareKey entry.1)
    {root : Entries} (hnew : root.lookup entry.1 = none) (bound : Nat) (rest : List Char) :
    readLines (bound + 1) ⟨root, []⟩ (writeLine entry ++ rest) =
      readLines bound ⟨root ++ [leafOf entry], []⟩ rest := by
  obtain ⟨c, s, heq, hbare⟩ := hkey.eq_cons
  have hread := readEntryLine_writeLine hkey hnew rest
  have hline : ∃ more, writeLine entry ++ rest = c :: more := by
    simp [writeLine, heq]
  obtain ⟨more, hline⟩ := hline
  rw [hline] at hread ⊢
  rw [readLines, skipSpace_of_isBare hbare]
  split
  · contradiction
  · rename_i hfront
    exact absurd (List.cons.inj hfront).1 (ne_of_isBare hbare rfl)
  · rw [hread]
    rfl

theorem lookup_eq_none_of_not_mem {root : Entries} {key : String}
    (h : key ∉ root.map Prod.fst) : root.lookup key = none := by
  rw [List.lookup_eq_none_iff]
  intro entry hentry
  rw [bne_iff_ne]
  rintro rfl
  exact h (List.mem_map_of_mem hentry)

/-- All lines of a document are read, behind the entries that are there already. -/
theorem readLines_writeLines {entries : List (String × Field)}
    (hkeys : ∀ entry ∈ entries, IsBareKey entry.1) {root : Entries}
    (hnodup : (root.map Prod.fst ++ entries.map Prod.fst).Nodup) {bound : Nat}
    (hbound : entries.length < bound) :
    readLines bound ⟨root, []⟩ (writeLines entries) = some ⟨root ++ entries.map leafOf, []⟩ := by
  obtain ⟨bound, rfl⟩ : ∃ fewer, bound = fewer + 1 := ⟨bound - 1, by omega⟩
  induction entries generalizing root bound with
  | nil =>
    rw [List.map_nil, List.append_nil, writeLines, List.flatMap_nil, readLines, skipSpace]
    rfl
  | cons entry entries ih =>
    rw [List.forall_mem_cons] at hkeys
    rw [List.length_cons] at hbound
    obtain ⟨bound, rfl⟩ : ∃ fewer, bound = fewer + 1 := ⟨bound - 1, by omega⟩
    have hnew : entry.1 ∉ root.map Prod.fst := by
      intro hmem
      exact (List.nodup_append.mp hnodup).2.2 _ hmem _ List.mem_cons_self rfl
    have hrest : ((root ++ [leafOf entry]).map Prod.fst ++ entries.map Prod.fst).Nodup := by
      simpa [leafOf] using hnodup
    -- the other lines are read behind this one, whose entry now stands in the root
    rw [writeLines, List.flatMap_cons, readLines_writeLine hkeys.1 (lookup_eq_none_of_not_mem hnew)]
    exact (ih hkeys.2 hrest bound (by omega)).trans (by simp)

/-! ## Documents -/

theorem Node.finishEntries_leafOf (entries : List (String × Field)) :
    Node.finishEntries (entries.map leafOf) =
      entries.map fun entry => (entry.1, entry.2.value) := by
  induction entries with
  | nil => rfl
  | cons entry entries ih =>
    rw [List.map_cons, leafOf, Node.finishEntries, ih, Node.finish, List.map_cons]

theorem Field.withMoments?_value (field : Field) : field.value.withMoments? = some field.value := by
  cases field with
  | text s => rw [Field.value, Value.withMoments?] <;> simp
  | flag b => rw [Field.value, Value.withMoments?] <;> simp

theorem withMomentsInEntries?_fields (entries : List (String × Field)) :
    withMomentsInEntries? (entries.map fun entry => (entry.1, entry.2.value)) =
      some (entries.map fun entry => (entry.1, entry.2.value)) := by
  induction entries with
  | nil => rfl
  | cons entry entries ih =>
    rw [List.map_cons, withMomentsInEntries?, ih, Field.withMoments?_value]

/-- A document of fields with bare keys holds no table that stands for a date. -/
theorem documentEntries?_fields {entries : List (String × Field)}
    (hkeys : ∀ entry ∈ entries, IsBareKey entry.1) :
    documentEntries? (entries.map fun entry => (entry.1, entry.2.value)) =
      some (entries.map fun entry => (entry.1, entry.2.value)) := by
  cases entries with
  | nil => rfl
  | cons entry entries =>
    have hkey : entry.1 ≠ momentKey := by
      intro heq
      have hbare := hkeys entry List.mem_cons_self
      rw [heq] at hbare
      exact absurd hbare (by decide)
    have hrest := withMomentsInEntries?_fields entries
    rw [documentEntries?, List.map_cons, Value.withMoments?, if_neg hkey,
      Field.withMoments?_value, hrest]

theorem length_le_writeLines (entries : List (String × Field)) :
    entries.length ≤ (writeLines entries).length := by
  induction entries with
  | nil => exact Nat.zero_le _
  | cons entry entries ih =>
    rw [writeLines, List.flatMap_cons, ← writeLines, List.length_append, List.length_cons,
      writeLine, List.length_append, List.length_singleton]
    omega

theorem skipMark_writeLines {entries : List (String × Field)}
    (hkeys : ∀ entry ∈ entries, IsBareKey entry.1) :
    skipMark (writeLines entries) = writeLines entries := by
  cases entries with
  | nil => rfl
  | cons entry entries =>
    obtain ⟨c, s, heq, hbare⟩ := (hkeys entry List.mem_cons_self).eq_cons
    rw [writeLines, List.flatMap_cons, writeLine, heq, skipMark]
    rintro _ ⟨⟩
    cases hbare

/-- **A document of lines is read as its entries.** -/
theorem parse_writeLines {entries : List (String × Field)}
    (hkeys : ∀ entry ∈ entries, IsBareKey entry.1) (hnodup : (entries.map Prod.fst).Nodup) :
    parse (String.ofList (writeLines entries)) =
      some (entries.map fun entry => (entry.1, entry.2.value)) := by
  have hlines := @readLines_writeLines entries hkeys [] (by simpa using hnodup)
    ((writeLines entries).length + 1) (Nat.lt_succ_of_le (length_le_writeLines entries))
  rw [parse, String.toList_ofList, skipMark_writeLines hkeys, hlines, List.nil_append]
  dsimp only
  rw [Node.finishEntries_leafOf, documentEntries?_fields hkeys]

end StackMachine.Toml
