import StackMachine.Proofs.Decimal
import StackMachine.Proofs.Settings.Layers

/-!
# Settings from the environment

Four variables give all settings, whatever the configuration file says (`variables_give_settings`).
Their texts are guessed at first: a text may stand for a flag, an integer or a floating-point
number. That makes no difference for the flags and the output format. The log level is the text of
what was guessed (`levelOf`), so that words, and integers in their usual form, come through as they
are, and other spellings of numbers do not (`level_is_reread`).
-/

namespace StackMachine.Settings

/-! ## The log level -/

/-- The log level that the text of a variable gives: the word for a flag in lower case, a number in
its usual form, and any other text as it is. -/
def levelOf (text : String) : String :=
  if Text.lowerString text ∈ ["true", "false"] then Text.lowerString text
  else
    match Decimal.integer? text.toList, Decimal.float? text.toList with
    | some n, _ => toString n
    | none, some x => String.ofList (floatLayout.text x)
    | none, none => text

theorem toText_ofVariable (key text : String) :
    toText key (ofVariable text) = .ok (levelOf text) := by
  unfold ofVariable guess levelOf
  by_cases htrue : Text.lowerString text = "true"
  · rw [if_pos htrue, if_pos (by simp [htrue]), htrue]
    rfl
  by_cases hfalse : Text.lowerString text = "false"
  · rw [if_neg htrue, if_pos hfalse, if_pos (by simp [hfalse]), hfalse]
    rfl
  rw [if_neg htrue, if_neg hfalse, if_neg (by simp [htrue, hfalse])]
  cases Decimal.integer? text.toList with
  | some n => rfl
  | none => cases Decimal.float? text.toList <;> rfl

/-- The words for flags have an `e`, which no text of digits and minus signs gets. -/
theorem lowerString_not_mem_of_digits {text : String}
    (h : ∀ c ∈ text.toList, c = '-' ∨ c.isDigit) : Text.lowerString text ∉ ["true", "false"] := by
  have hcapital : ∀ c ∈ text.toList, ¬ Text.IsCapital c.toNat := by
    intro c hc
    rcases h c hc with rfl | hdigit
    · decide
    · have hle : c.toNat ≤ '9'.toNat := (Char.isDigit_iff_toNat.mp hdigit).2
      have hnine : '9'.toNat = 57 := rfl
      unfold Text.IsCapital
      omega
  have he : 'e' ∉ (Text.lowerString text).toList := by
    rw [Text.lowerString, String.toList_ofList]
    intro hmem
    rcases Text.mem_or_isCapital_of_mem_lower (by decide) hmem with hmem | ⟨c, hc, hlarge⟩
    · exact absurd (h 'e' hmem) (by decide)
    · exact hcapital c hc hlarge
  intro hword
  have hall : ∀ word ∈ ["true", "false"], 'e' ∈ word.toList := by decide
  exact he (hall _ hword)

/-- An integer in its usual form is kept. -/
theorem levelOf_toString {n : Int} (hn : Arithmetic.Fits n) :
    levelOf (toString n) = toString n := by
  have hdigits : ∀ c ∈ (toString n).toList, c = '-' ∨ c.isDigit := by
    intro c hc
    rw [Decimal.toList_toString, List.mem_append] at hc
    rcases hc with hc | hc
    · exact Or.inl (by split at hc <;> simp_all)
    · exact Or.inr (Decimal.isDigit_of_mem_digitsOf hc)
  rw [levelOf, if_neg (lowerString_not_mem_of_digits hdigits), Decimal.integer?_toString hn]

/-- A text without digits is kept, unless it is a word for a flag or for a number. -/
theorem levelOf_of_no_digit {text : String} (hdigit : ∀ c ∈ text.toList, c.isDigit = false)
    (hflag : Text.lowerString text ∉ ["true", "false"])
    (hword : Decimal.word? (Decimal.splitSign text.toList).2 = none) : levelOf text = text := by
  rw [levelOf, if_neg hflag, Decimal.integer?_of_no_digit hdigit,
    Decimal.float?_of_no_digit hdigit hword]

/-! ## The other settings -/

theorem toFlag_ofVariable (key : String) (flag : Bool) :
    toFlag key (ofVariable (toString flag)) = .ok flag := by
  cases flag <;> rfl

theorem toFormat_ofVariable (format : OutputFormat) :
    toFormat (ofVariable format.name) = .ok format := by
  cases format <;> rfl

/-! ## Variables for settings -/

/-- The variables that ask for settings, with their texts. -/
def asVariables (s : Settings) : Variables :=
  [("STACKVM_LOG_LEVEL", s.logLevel), ("STACKVM_ECHO", toString s.echo),
    ("STACKVM_SHOW_STACK", toString s.showStack), ("STACKVM_FORMAT", s.format.name)]

/-- The variables for some settings are set, and none besides them that gives a setting. The file of
variables may have other texts for them, since those that are set already count. -/
structure AsksFor (around : Surroundings) (s : Settings) : Prop where
  set : ∀ entry ∈ s.asVariables, entry ∈ around.env
  only : ∀ entry ∈ around.env, settingOfVariable? entry.1 ≠ none → entry ∈ s.asVariables
  file_only : ∀ entry ∈ fileAssignments around,
    settingOfVariable? entry.1 ≠ none → entry.1 ∈ s.asVariables.map Prod.fst

variable {around : Surroundings} {path : Option String} {s : Settings}

theorem ofVariables_asVariables (s : Settings) :
    ofVariables s.asVariables =
      [("log_level", ofVariable s.logLevel), ("echo", ofVariable (toString s.echo)),
        ("show_stack", ofVariable (toString s.showStack)),
        ("format", ofVariable s.format.name)] := by
  have hlogLevel : settingOfVariable? "STACKVM_LOG_LEVEL" = some "log_level" := by decide
  have hecho : settingOfVariable? "STACKVM_ECHO" = some "echo" := by decide
  have hshowStack : settingOfVariable? "STACKVM_SHOW_STACK" = some "show_stack" := by decide
  have hformat : settingOfVariable? "STACKVM_FORMAT" = some "format" := by decide
  rw [asVariables, ofVariables_cons, ofVariables_cons, ofVariables_cons, ofVariables_cons,
    hlogLevel, hecho, hshowStack, hformat]
  rfl

theorem mem_ofVariables {env : Variables} {setting : String} {tree : Tree} :
    (setting, tree) ∈ ofVariables env ↔
      ∃ entry ∈ env, settingOfVariable? entry.1 = some setting ∧ ofVariable entry.2 = tree := by
  rw [ofVariables, List.mem_filterMap]
  refine exists_congr fun entry => and_congr_right fun _ => ?_
  rw [Option.map_eq_some_iff]
  constructor
  · rintro ⟨other, hsetting, hpair⟩
    obtain ⟨rfl, rfl⟩ := Prod.mk.inj hpair
    exact ⟨hsetting, rfl⟩
  · rintro ⟨hsetting, rfl⟩
    exact ⟨setting, hsetting, rfl⟩

/-- The file of variables changes nothing. -/
theorem AsksFor.mem_environment_iff (h : AsksFor around s) {entry : String × String}
    (hsetting : settingOfVariable? entry.1 ≠ none) :
    entry ∈ environment around ↔ entry ∈ s.asVariables := by
  rw [mem_environment]
  constructor
  · rintro (hentry | ⟨hunset, hassigned⟩)
    · exact h.only entry hentry hsetting
    · -- what the file assigns to one of the four names does not count, since these are set
      obtain ⟨before, after, hsplit, -⟩ := List.lookup_eq_some_iff.mp hassigned
      have hmem : entry ∈ fileAssignments around := by
        rw [hsplit]
        exact List.mem_append_right _ List.mem_cons_self
      obtain ⟨known, hknown, hname⟩ := List.mem_map.mp (h.file_only entry hmem hsetting)
      have hne := List.lookup_eq_none_iff.mp hunset known (h.set known hknown)
      rw [hname] at hne
      simp at hne
  · exact fun hentry => Or.inl (h.set entry hentry)

theorem AsksFor.mem_ofVariables_iff (h : AsksFor around s) {entry : String × Tree} :
    entry ∈ ofVariables (environment around) ↔ entry ∈ ofVariables s.asVariables := by
  obtain ⟨setting, tree⟩ := entry
  rw [mem_ofVariables, mem_ofVariables]
  refine exists_congr fun entry => and_congr_left fun ⟨hsetting, _⟩ => ?_
  exact h.mem_environment_iff (by simp [hsetting])

theorem mem_names_of_mem_ofVariables {entry : String × Tree}
    (h : entry ∈ ofVariables s.asVariables) : entry.1 ∈ names := by
  rw [ofVariables_asVariables] at h
  simp only [List.mem_cons, List.not_mem_nil, or_false] at h
  rcases h with rfl | rfl | rfl | rfl <;> simp [names]

theorem isSimpleName_of_mem_names : ∀ name ∈ names, IsSimpleName name := by
  decide

/-- No two of the variables for settings give the same name. -/
theorem eq_of_mem_ofVariables {name : String} {tree tree' : Tree}
    (h : (name, tree) ∈ ofVariables s.asVariables)
    (h' : (name, tree') ∈ ofVariables s.asVariables) : tree = tree' := by
  rw [ofVariables_asVariables] at h h'
  simp only [List.mem_cons, List.not_mem_nil, or_false, Prod.mk.injEq] at h h'
  rcases h with ⟨rfl, rfl⟩ | ⟨rfl, rfl⟩ | ⟨rfl, rfl⟩ | ⟨rfl, rfl⟩ <;>
    simpa [eq_comm] using h'

/-- After all sources were added, each setting has the value that its variable gives. -/
theorem AsksFor.valueAt_add (h : AsksFor around s) (tree : Tree) {name text : String}
    (hmem : (name, ofVariable text) ∈ ofVariables s.asVariables) :
    (tree.add (ofVariables (environment around))).valueAt name = ofVariable text := by
  have hsimple : ∀ entry ∈ ofVariables (environment around), IsSimpleName entry.1 :=
    fun entry hentry => isSimpleName_of_mem_names _
      (mem_names_of_mem_ofVariables (h.mem_ofVariables_iff.mp hentry))
  have hsame : ∀ entry ∈ ofVariables (environment around),
      Text.lowerString entry.1 = name → entry.2 = ofVariable text := by
    intro entry hentry hname
    rw [h.mem_ofVariables_iff] at hentry
    rw [(names_lower _ (mem_names_of_mem_ofVariables hentry)).1] at hname
    subst hname
    exact eq_of_mem_ofVariables hentry hmem
  have hnamed : ∃ entry ∈ ofVariables (environment around), Text.lowerString entry.1 = name :=
    ⟨_, h.mem_ofVariables_iff.mpr hmem, (names_lower _ (mem_names_of_mem_ofVariables hmem)).1⟩
  have hlookup := lookup_add_of_leaf hsimple hsame tree (Or.inr hnamed)
  rw [Tree.valueAt, hlookup]
  rfl

/-! ## Loading -/

theorem AsksFor.load_eq (h : AsksFor around s) {file : Tree.Entries}
    (hfile : fileEntries around.look path = .ok file) :
    load around path = .ok { s with logLevel := levelOf s.logLevel } := by
  rw [load_eq_ok_iff hfile, ofTree_eq_ok_iff]
  have hvalue := fun name text => @h.valueAt_add _ _ (defaults.add file) name text
  simp only [ofVariables_asVariables] at hvalue
  refine ⟨?_, ?_, ?_, ?_⟩
  · rw [hvalue _ s.logLevel (by simp), toText_ofVariable]
  · rw [hvalue _ (toString s.echo) (by simp), toFlag_ofVariable]
  · rw [hvalue _ (toString s.showStack) (by simp), toFlag_ofVariable]
  · rw [hvalue _ s.format.name (by simp), toFormat_ofVariable]

theorem AsksFor.load_eq_ok_iff (h : AsksFor around s) {file : Tree.Entries}
    (hfile : fileEntries around.look path = .ok file) :
    load around path = .ok s ↔ levelOf s.logLevel = s.logLevel := by
  rw [h.load_eq hfile, Except.ok.injEq]
  constructor
  · exact fun hload => congrArg Settings.logLevel hload
  · intro hlevel
    rw [hlevel]

/-- **All settings can be given by variables.** If the variables for some settings are set and the
configuration file can be read, then these settings are loaded, whatever the file says, with the
log level that the text of its variable gives. They are loaded as they are if that level is the text
itself. It is for the words for flags, for every integer of 64 bits in its usual form, and for every
text without digits that is, in any case and after a sign, no other word for a flag or a number. -/
theorem variables_give_settings :
    (∀ around path file s, fileEntries around.look path = .ok file → AsksFor around s →
      load around path = .ok { s with logLevel := levelOf s.logLevel } ∧
      (load around path = .ok s ↔ levelOf s.logLevel = s.logLevel)) ∧
    (∀ flag : Bool, levelOf (toString flag) = toString flag) ∧
    (∀ n : Int, Arithmetic.Fits n → levelOf (toString n) = toString n) ∧
    ∀ text : String, (∀ c ∈ text.toList, c.isDigit = false) →
      Text.lowerString text ∉ ["true", "false"] →
      Decimal.word? (Decimal.splitSign text.toList).2 = none → levelOf text = text := by
  refine ⟨?_, ?_, fun _ => levelOf_toString, fun _ => levelOf_of_no_digit⟩
  · intro around path file s hfile hasks
    exact ⟨hasks.load_eq hfile, hasks.load_eq_ok_iff hfile⟩
  · intro flag
    cases flag <;> rfl

/-- A filter and other settings than those of the configuration file and the file of variables. -/
theorem variables_give_settings_filter :
    let s : Settings :=
      { logLevel := "stackvm=debug,off", echo := false, showStack := true, format := .json }
    let around : Surroundings :=
      { env := ("HOME", "/") :: s.asVariables
        look := fun path =>
          if path = "stackvm.toml" then .ok "echo = \x7b\x7d\nlog_level = []\nFormat = 1\n".toUTF8
          else if path = ".env" then .ok "STACKVM_ECHO=maybe\n".toUTF8
          else .error .missing }
    load around none = .ok s ∧ levelOf "-40" = "-40" := by
  intro s around
  let origin := some "stackvm.toml"
  let file : Tree.Entries :=
    [("echo", .table []), ("log_level", .leaf origin .sequence),
      ("Format", .leaf origin (.integer 1))]
  have hparse : Toml.parse "echo = \x7b\x7d\nlog_level = []\nFormat = 1\n" =
      some [("echo", .table []), ("log_level", .array []), ("Format", .integer 1)] := by
    decide +kernel
  have hfile : fileEntries around.look none = .ok file := by
    have hmissing : around.look "stackvm" = .error .missing := rfl
    exact fileEntries_default hmissing rfl hparse
  have hasks : AsksFor around s := ⟨by decide +kernel, by decide +kernel, by decide +kernel⟩
  obtain ⟨hload, -, hinteger, htext⟩ := variables_give_settings
  have hlevel : levelOf s.logLevel = s.logLevel :=
    htext s.logLevel (by simp [s]) (by decide +kernel) (by decide +kernel)
  have hforty : toString (-40 : Int) = "-40" := by decide
  exact ⟨(hload around none file s hfile hasks).2.mpr hlevel, hforty ▸ hinteger (-40) (by decide)⟩

/-- A log level that looks like a number is not what the variable says: its zeros are lost. -/
theorem level_is_reread :
    let s : Settings := { logLevel := "007" }
    let around : Surroundings := { env := s.asVariables, look := fun _ => .error .missing }
    fileEntries around.look none = .ok [] ∧ AsksFor around s ∧
      load around none = .ok { s with logLevel := "7" } ∧ load around none ≠ .ok s := by
  intro s around
  have hfile : fileEntries around.look none = .ok [] := rfl
  have hasks : AsksFor around s := ⟨by decide +kernel, by decide +kernel, by decide +kernel⟩
  have hlevel : levelOf s.logLevel = "7" := by decide +kernel
  refine ⟨hfile, hasks, ?_, ?_⟩
  · rw [hasks.load_eq hfile, hlevel]
  · rw [Ne, hasks.load_eq_ok_iff hfile, hlevel]
    decide

end StackMachine.Settings
