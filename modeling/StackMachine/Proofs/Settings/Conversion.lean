import StackMachine.Settings.Load

/-!
# From values to settings

A tree makes settings exactly if each of the four settings accepts the value under its name, and no
other part of the tree is looked at (`ofTree_eq_ok_iff`, `refuses_of_ofTree`, `ofTree_congr`). The
origins of values are told in messages only: a tree makes the same settings without them
(`ofTree_bare_eq_ok_iff`), and it does not matter whether they are left out before or after sources
are added to it (`bare_add`).
-/

namespace StackMachine.Settings

/-! ## The four values -/

/-- The names of the settings. -/
def names : List String := ["log_level", "echo", "show_stack", "format"]

/-- The value that a tree has under a name. -/
def Tree.valueAt (tree : Tree) (name : String) : Tree :=
  (tree.entries.lookup name).getD (.leaf none .nothing)

/-- The values of the settings, by name, make these settings. -/
structure Makes (value : String → Tree) (s : Settings) : Prop where
  logLevel : toText "log_level" (value "log_level") = .ok s.logLevel
  echo : toFlag "echo" (value "echo") = .ok s.echo
  showStack : toFlag "show_stack" (value "show_stack") = .ok s.showStack
  format : toFormat (value "format") = .ok s.format

/-- One of the values of the settings, by name, is not what its setting accepts. -/
inductive Refuses (value : String → Tree) (invalid : Invalid) : Prop where
  | logLevel (h : toText "log_level" (value "log_level") = .error invalid)
  | echo (h : toFlag "echo" (value "echo") = .error invalid)
  | showStack (h : toFlag "show_stack" (value "show_stack") = .error invalid)
  | format (h : toFormat (value "format") = .error invalid)

theorem ofTree_eq (tree : Tree) :
    ofTree tree =
      match toText "log_level" (tree.valueAt "log_level") with
      | .error invalid => .error invalid
      | .ok logLevel =>
        match toFlag "echo" (tree.valueAt "echo") with
        | .error invalid => .error invalid
        | .ok echo =>
          match toFlag "show_stack" (tree.valueAt "show_stack") with
          | .error invalid => .error invalid
          | .ok showStack =>
            match toFormat (tree.valueAt "format") with
            | .error invalid => .error invalid
            | .ok format => .ok { logLevel, echo, showStack, format } := rfl

/-- A tree makes settings if its four values do. -/
theorem ofTree_eq_ok_iff {tree : Tree} {s : Settings} :
    ofTree tree = .ok s ↔ Makes tree.valueAt s := by
  rw [ofTree_eq]
  constructor
  · intro h
    split at h
    · simp at h
    rename_i logLevel hlogLevel
    split at h
    · simp at h
    rename_i echo hecho
    split at h
    · simp at h
    rename_i showStack hshowStack
    split at h
    · simp at h
    rename_i format hformat
    obtain rfl : (⟨logLevel, echo, showStack, format⟩ : Settings) = s := by simpa using h
    exact ⟨hlogLevel, hecho, hshowStack, hformat⟩
  · rintro ⟨hlogLevel, hecho, hshowStack, hformat⟩
    rw [hlogLevel, hecho, hshowStack, hformat]

/-- A tree that makes no settings has a value that its setting does not accept. -/
theorem refuses_of_ofTree {tree : Tree} {invalid : Invalid} (h : ofTree tree = .error invalid) :
    Refuses tree.valueAt invalid := by
  rw [ofTree_eq] at h
  split at h
  · rename_i refused hlogLevel
    obtain rfl : refused = invalid := by simpa using h
    exact .logLevel hlogLevel
  split at h
  · rename_i refused hecho
    obtain rfl : refused = invalid := by simpa using h
    exact .echo hecho
  split at h
  · rename_i refused hshowStack
    obtain rfl : refused = invalid := by simpa using h
    exact .showStack hshowStack
  split at h
  · rename_i refused hformat
    obtain rfl : refused = invalid := by simpa using h
    exact .format hformat
  · simp at h

theorem Makes.congr {value value' : String → Tree} {s : Settings}
    (h : ∀ name ∈ names, value name = value' name) (hmakes : Makes value s) : Makes value' s := by
  obtain ⟨hlogLevel, hecho, hshowStack, hformat⟩ := hmakes
  rw [h "log_level" (by decide)] at hlogLevel
  rw [h "echo" (by decide)] at hecho
  rw [h "show_stack" (by decide)] at hshowStack
  rw [h "format" (by decide)] at hformat
  exact ⟨hlogLevel, hecho, hshowStack, hformat⟩

theorem Refuses.congr {value value' : String → Tree} {invalid : Invalid}
    (h : ∀ name ∈ names, value name = value' name) (hrefuses : Refuses value invalid) :
    Refuses value' invalid := by
  cases hrefuses with
  | logLevel hlogLevel => exact .logLevel (h "log_level" (by decide) ▸ hlogLevel)
  | echo hecho => exact .echo (h "echo" (by decide) ▸ hecho)
  | showStack hshowStack => exact .showStack (h "show_stack" (by decide) ▸ hshowStack)
  | format hformat => exact .format (h "format" (by decide) ▸ hformat)

/-- Only the four values count. -/
theorem ofTree_congr {tree tree' : Tree}
    (h : ∀ name ∈ names, tree.valueAt name = tree'.valueAt name) : ofTree tree = ofTree tree' := by
  rw [ofTree_eq, ofTree_eq, h "log_level" (by decide), h "echo" (by decide),
    h "show_stack" (by decide), h "format" (by decide)]

/-! ## Trees without origins -/

mutual

/-- The tree without the origins of its values. -/
def Tree.bare : Tree → Tree
  | .leaf _ value => .leaf none value
  | .table entries => .table (bareEntries entries)

/-- The entries without the origins of their values. -/
def bareEntries : Tree.Entries → Tree.Entries
  | [] => []
  | (name, tree) :: entries => (name, tree.bare) :: bareEntries entries

end

theorem entries_bare (tree : Tree) : tree.bare.entries = bareEntries tree.entries := by
  cases tree with
  | leaf origin value => rfl
  | table entries => rfl

theorem lookup_bareEntries (entries : Tree.Entries) (name : String) :
    (bareEntries entries).lookup name = (entries.lookup name).map Tree.bare := by
  induction entries with
  | nil => rfl
  | cons entry entries ih =>
    obtain ⟨other, tree⟩ := entry
    rw [bareEntries, List.lookup_cons, List.lookup_cons, ih]
    split <;> rfl

theorem valueAt_bare (tree : Tree) (name : String) :
    tree.bare.valueAt name = (tree.valueAt name).bare := by
  rw [Tree.valueAt, Tree.valueAt, entries_bare, lookup_bareEntries]
  cases tree.entries.lookup name with
  | none => rfl
  | some value => rfl

theorem bareEntries_set (entries : Tree.Entries) (name : String) (tree : Tree) :
    bareEntries (Tree.Entries.set entries name tree) =
      Tree.Entries.set (bareEntries entries) name tree.bare := by
  induction entries with
  | nil => rfl
  | cons entry entries ih =>
    obtain ⟨other, old⟩ := entry
    rw [Tree.Entries.set, bareEntries, Tree.Entries.set]
    split
    · rfl
    · rw [bareEntries, ih]

mutual

theorem bare_set (tree : Tree) (name : String) :
    ∀ value : Tree, (tree.set name value).bare = tree.bare.set name value.bare
  | .leaf origin value => by
    simp only [Tree.set, Tree.bare, bareEntries_set, entries_bare]
  | .table entries => by
    simp only [Tree.set, Tree.bare, bareEntries_set, entries_bare, lookup_bareEntries, bare_setAll]
    cases tree.entries.lookup (Text.lowerString name) <;> rfl

theorem bare_setAll (tree : Tree) :
    ∀ entries : Tree.Entries, (tree.setAll entries).bare = tree.bare.setAll (bareEntries entries)
  | [] => rfl
  | (name, value) :: entries => by
    rw [Tree.setAll, bare_setAll, bare_set, bareEntries, Tree.setAll]

end

theorem bare_setPath (tree : Tree) (name : String) (value : Tree) (steps : List PathStep) :
    (tree.setPath name value steps).bare = tree.bare.setPath name value.bare steps := by
  induction steps generalizing tree name with
  | nil => exact bare_set tree name value
  | cons step steps ih =>
    have hthere := valueAt_bare tree (Text.lowerString name)
    rw [Tree.valueAt, Tree.valueAt, entries_bare] at hthere
    cases step with
    | child inner =>
      simp only [Tree.setPath, Tree.bare, bareEntries_set, entries_bare, hthere, ih]
    | item =>
      simp only [Tree.setPath, Tree.bare, bareEntries_set, entries_bare, hthere]
      -- a list has no origin left, and neither has a new one
      generalize (tree.entries.lookup (Text.lowerString name)).getD (.leaf none .nothing) = there
      cases there with
      | table entries => rfl
      | leaf origin value => cases value <;> rfl

/-- Adding the values of a source and leaving out their origins can be done in any order. -/
theorem bare_add (tree : Tree) (source : Tree.Entries) :
    (tree.add source).bare = tree.bare.add (bareEntries source) := by
  induction source generalizing tree with
  | nil => rfl
  | cons entry source ih =>
    obtain ⟨key, value⟩ := entry
    have hstep : ∀ (tree value : Tree) (source : Tree.Entries),
        tree.add ((key, value) :: source) =
          (tree.setPath (readPath key).1 value (readPath key).2).add source := fun _ _ _ => rfl
    rw [bareEntries, hstep, hstep, ih, bare_setPath]

theorem bare_defaults : defaults.bare = defaults := rfl

/-! ## The same settings without origins -/

theorem toText_bare_eq_ok_iff {key : String} {tree : Tree} {s : String} :
    toText key tree.bare = .ok s ↔ toText key tree = .ok s := by
  cases tree with
  | table entries => simp [Tree.bare, toText]
  | leaf origin value => cases value <;> simp [Tree.bare, toText]

theorem toFlag_bare_eq_ok_iff {key : String} {tree : Tree} {b : Bool} :
    toFlag key tree.bare = .ok b ↔ toFlag key tree = .ok b := by
  cases tree with
  | table entries => simp [Tree.bare, toFlag]
  | leaf origin value =>
    cases value with
    | text s =>
      simp only [Tree.bare, toFlag]
      split <;> simp
    | _ => simp [Tree.bare, toFlag]

theorem toFormat_bare (tree : Tree) : toFormat tree.bare = toFormat tree := by
  cases tree with
  | leaf origin value => cases value <;> rfl
  | table entries =>
    match entries with
    | [] => rfl
    | [(name, tree)] => rfl
    | _ :: _ :: _ => rfl

/-- Origins make no difference to the settings. -/
theorem ofTree_bare_eq_ok_iff {tree : Tree} {s : Settings} :
    ofTree tree.bare = .ok s ↔ ofTree tree = .ok s := by
  rw [ofTree_eq_ok_iff, ofTree_eq_ok_iff]
  constructor
  · rintro ⟨hlogLevel, hecho, hshowStack, hformat⟩
    rw [valueAt_bare] at hlogLevel hecho hshowStack hformat
    exact ⟨toText_bare_eq_ok_iff.mp hlogLevel, toFlag_bare_eq_ok_iff.mp hecho,
      toFlag_bare_eq_ok_iff.mp hshowStack, (toFormat_bare _).symm.trans hformat⟩
  · rintro ⟨hlogLevel, hecho, hshowStack, hformat⟩
    refine ⟨?_, ?_, ?_, ?_⟩
    · rw [valueAt_bare, toText_bare_eq_ok_iff, hlogLevel]
    · rw [valueAt_bare, toFlag_bare_eq_ok_iff, hecho]
    · rw [valueAt_bare, toFlag_bare_eq_ok_iff, hshowStack]
    · rw [valueAt_bare, toFormat_bare, hformat]

mutual

theorem bare_ofToml (origin : Option String) :
    ∀ value : Toml.Value, (ofToml origin value).bare = ofToml none value
  | .string _ | .integer _ | .float _ | .boolean _ | .moment _ | .array _ => rfl
  | .table entries => by rw [ofToml, Tree.bare, bare_ofTomlEntries, ofToml]

theorem bare_ofTomlEntries (origin : Option String) :
    ∀ entries : List (String × Toml.Value),
      bareEntries (ofTomlEntries origin entries) = ofTomlEntries none entries
  | [] => rfl
  | (name, value) :: entries => by
    rw [ofTomlEntries, bareEntries, bare_ofToml, bare_ofTomlEntries, ofTomlEntries]

end

end StackMachine.Settings
