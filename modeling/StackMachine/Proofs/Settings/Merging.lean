import StackMachine.Settings.Load

/-!
# Merging sources into a tree

What a tree of settings holds under a name after the entries of a source were added
(`lookup_add`): what it held before, unless the source names it, and else that value or, if the
value is a table, what it makes of the value that was there. A source may repeat itself
(`lookup_add_of_leaf`).
-/

namespace StackMachine.Settings

/-! ## Names and paths -/

/-- A name without the characters that lead on from a name in a path. -/
def IsSimpleName (name : String) : Prop :=
  '.' ∉ name.toList ∧ '[' ∉ name.toList

instance (name : String) : Decidable (IsSimpleName name) :=
  inferInstanceAs (Decidable (_ ∧ _))

theorem readSteps_of_simple {bound : Nat} {s : List Char} (hs : s ≠ []) (hpoint : '.' ∉ s)
    (hbracket : '[' ∉ s) : readSteps bound s = none := by
  cases bound with
  | zero => exact if_neg hs
  | succ bound =>
    unfold readSteps
    split
    · exact absurd rfl hs
    · exact absurd List.mem_cons_self hpoint
    · exact absurd List.mem_cons_self hbracket
    · rfl

/-- A simple name is no path. -/
theorem readPath_of_simple {name : String} (h : IsSimpleName name) :
    readPath name = (name, []) := by
  obtain ⟨hpoint, hbracket⟩ := h
  have hsplit : name.toList.takeWhile isNameChar ++ name.toList.dropWhile isNameChar =
      name.toList := List.takeWhile_append_dropWhile
  unfold readPath readName
  cases hfront : name.toList.takeWhile isNameChar with
  | nil => rfl
  | cons c front =>
    dsimp only
    by_cases hrest : name.toList.dropWhile isNameChar = []
    · rw [hrest, List.append_nil, hfront] at hsplit
      rw [hrest, hsplit, String.ofList_toList]
      rfl
    · have hmem : ∀ x ∈ name.toList.dropWhile isNameChar, x ∈ name.toList :=
        fun x hx => (List.dropWhile_sublist _).mem hx
      rw [readSteps_of_simple hrest (fun h => hpoint (hmem _ h)) fun h => hbracket (hmem _ h)]

/-! ## Values under a name -/

namespace Tree

theorem Entries.lookup_set (entries : Entries) (name : String) (tree : Tree) (key : String) :
    (Entries.set entries name tree).lookup key =
      if key = name then some tree else entries.lookup key := by
  induction entries with
  | nil =>
    rw [Entries.set, List.lookup_cons]
    by_cases h : key = name
    · simp [h]
    · simp [h, beq_false_of_ne h]
  | cons entry entries ih =>
    obtain ⟨other, old⟩ := entry
    rw [Entries.set]
    by_cases hother : other = name
    · rw [if_pos hother, List.lookup_cons, List.lookup_cons, hother]
      by_cases h : key = name
      · simp [h]
      · simp [h, beq_false_of_ne h]
    · rw [if_neg hother, List.lookup_cons, List.lookup_cons, ih]
      by_cases h : key = other
      · simp [h, hother]
      · simp [beq_false_of_ne h]

/-- What is under a name after a value was set there: a table goes into the table that is there. -/
def merged (there : Option Tree) : Tree → Tree
  | leaf origin value => leaf origin value
  | table entries => setAll (there.getD (.table [])) entries

theorem lookup_set (tree : Tree) (name : String) (value : Tree) (key : String) :
    (tree.set name value).entries.lookup key =
      if key = Text.lowerString name then some (merged (tree.entries.lookup key) value)
      else tree.entries.lookup key := by
  cases value with
  | leaf origin value =>
    rw [set, entries, Entries.lookup_set]
    rfl
  | table inner =>
    rw [set, entries, Entries.lookup_set]
    by_cases h : key = Text.lowerString name
    · rw [if_pos h, if_pos h, h]
      rfl
    · rw [if_neg h, if_neg h]

theorem add_cons {name : String} (h : IsSimpleName name) (tree value : Tree) (source : Entries) :
    tree.add ((name, value) :: source) = (tree.set name value).add source := by
  rw [add, List.foldl_cons]
  dsimp only
  rw [readPath_of_simple h]
  rfl

end Tree

/-! ## Sources -/

/-- The value that a source gives under a name. The case of its own names does not count. -/
def given? (source : Tree.Entries) (name : String) : Option Tree :=
  (source.find? fun entry => Text.lowerString entry.1 = name).map Prod.snd

theorem given?_cons (key : String) (value : Tree) (source : Tree.Entries) (name : String) :
    given? ((key, value) :: source) name =
      if Text.lowerString key = name then some value else given? source name := by
  by_cases h : Text.lowerString key = name <;> simp [given?, h]

/-- A source names something at most once. -/
def NamesOnce (source : Tree.Entries) (name : String) : Prop :=
  (source.countP fun entry => Text.lowerString entry.1 = name) ≤ 1

instance (source : Tree.Entries) (name : String) : Decidable (NamesOnce source name) :=
  inferInstanceAs (Decidable (_ ≤ _))

/-- A source changes what it names and nothing else. -/
theorem lookup_add {source : Tree.Entries} {name : String}
    (hsimple : ∀ entry ∈ source, IsSimpleName entry.1) (honce : NamesOnce source name)
    (tree : Tree) :
    (tree.add source).entries.lookup name =
      match given? source name with
      | none => tree.entries.lookup name
      | some value => some (Tree.merged (tree.entries.lookup name) value) := by
  induction source generalizing tree with
  | nil => rfl
  | cons entry source ih =>
    obtain ⟨key, value⟩ := entry
    rw [List.forall_mem_cons] at hsimple
    rw [NamesOnce, List.countP_cons] at honce
    rw [Tree.add_cons hsimple.1, ih hsimple.2 (Nat.le_trans (Nat.le_add_right _ _) honce),
      Tree.lookup_set]
    by_cases hkey : Text.lowerString key = name
    · -- the other entries have other names
      have hrest : given? source name = none := by
        rw [if_pos (by simpa using hkey)] at honce
        have hzero : source.countP (fun entry => Text.lowerString entry.1 = name) = 0 := by omega
        rw [given?, List.find?_eq_none.mpr (List.countP_eq_zero.mp hzero)]
        rfl
      rw [hrest, given?_cons, if_pos hkey, if_pos hkey.symm]
    · rw [given?_cons, if_neg hkey, if_neg (Ne.symm hkey)]

/-- If all that a source says under a name is one value, which is no table, then this value is there
after the source was added. It may be said more than once, or not at all if it is there already. -/
theorem lookup_add_of_leaf {source : Tree.Entries} {name : String} {origin : Option String}
    {value : Scalar} (hsimple : ∀ entry ∈ source, IsSimpleName entry.1)
    (hsame : ∀ entry ∈ source, Text.lowerString entry.1 = name → entry.2 = .leaf origin value)
    (tree : Tree)
    (hthere : tree.entries.lookup name = some (.leaf origin value) ∨
      ∃ entry ∈ source, Text.lowerString entry.1 = name) :
    (tree.add source).entries.lookup name = some (.leaf origin value) := by
  induction source generalizing tree with
  | nil => exact hthere.resolve_right (by simp)
  | cons entry source ih =>
    obtain ⟨key, there⟩ := entry
    rw [List.forall_mem_cons] at hsimple hsame
    simp only [List.mem_cons, exists_eq_or_imp] at hthere
    rw [Tree.add_cons hsimple.1]
    refine ih hsimple.2 hsame.2 _ ?_
    rw [Tree.lookup_set]
    by_cases hkey : Text.lowerString key = name
    · obtain rfl : there = .leaf origin value := hsame.1 hkey
      rw [if_pos hkey.symm]
      exact Or.inl rfl
    · rw [if_neg (Ne.symm hkey)]
      exact hthere.imp_right fun hnamed => hnamed.resolve_left hkey

end StackMachine.Settings
