import StackMachine.Proofs.Settings.Conversion
import StackMachine.Proofs.Settings.Merging
import StackMachine.Proofs.Settings.RoundTrip
import StackMachine.Proofs.Text.Lowercase

/-!
# Layers of settings

Settings come from the defaults, a configuration file and the environment, and each of the four is
taken from the last of these layers that has it, whatever the others are taken from. Main statement:
`settings_are_layered`, where `winner` tells for one setting which value counts. One value is passed
over by design, an empty table, since tables are merged (`empty_table_is_passed_over`).
-/

namespace StackMachine.Settings

/-! ## The environment -/

namespace VariableFile

/-- What the lines of a file assign, up to the first line that is not well formed. Each line is read
in the environment that those before it leave. The first argument bounds the number of lines. -/
def assignments : Nat → Variables → List (Option (List Char)) → List (String × String)
  | 0, _, _ => []
  | bound + 1, env, pieces =>
    match takeLine [] .plain pieces with
    | none => []
    | some (line, rest) =>
      match readLine env line with
      | none => []
      | some none => assignments bound env rest
      | some (some (name, value)) =>
        (name, value) :: assignments bound (assign env name value) rest

theorem lookup_assign (env : Variables) (name value key : String) :
    (assign env name value).lookup key =
      (env.lookup key).or (if key = name then some value else none) := by
  rw [assign]
  split
  · rename_i set hset
    by_cases hkey : key = name
    · rw [hkey, hset]
      rfl
    · rw [if_neg hkey, Option.or_none]
  · rw [List.lookup_append]
    congr 1
    rw [List.lookup_cons]
    by_cases hkey : key = name
    · simp [hkey]
    · simp [hkey, beq_false_of_ne hkey]

theorem mem_assign {env : Variables} {name value : String} {entry : String × String} :
    entry ∈ assign env name value ↔
      entry ∈ env ∨ env.lookup name = none ∧ entry = (name, value) := by
  rw [assign]
  split
  · rename_i set hset
    simp [hset]
  · rename_i hset
    simp [hset]

/-- The variables after some lines: those that were set before, and the first assignment to each
name that was not. -/
theorem mem_run (bound : Nat) (env : Variables) (pieces : List (Option (List Char)))
    (entry : String × String) :
    entry ∈ run bound env pieces ↔
      entry ∈ env ∨
        env.lookup entry.1 = none ∧
          (assignments bound env pieces).lookup entry.1 = some entry.2 := by
  induction bound generalizing env pieces with
  | zero => simp [run, assignments]
  | succ bound ih =>
    cases hline : takeLine [] .plain pieces with
    | none => simp [run, assignments, hline]
    | some taken =>
      obtain ⟨line, rest⟩ := taken
      cases hread : readLine env line with
      | none => simp [run, assignments, hline, hread]
      | some content =>
        cases content with
        | none =>
          simp only [run, assignments, hline, hread]
          exact ih env rest
        | some assigned =>
          obtain ⟨name, value⟩ := assigned
          obtain ⟨key, text⟩ := entry
          simp only [run, assignments, hline, hread]
          rw [ih, mem_assign, lookup_assign, List.lookup_cons]
          by_cases hkey : key = name
          · subst hkey
            cases hset : env.lookup key <;> simp [eq_comm]
          · have hother : ¬ (key, text) = (name, value) := fun h => hkey (congrArg Prod.fst h)
            simp [hkey, hother, beq_false_of_ne hkey]

end VariableFile

/-- What the file of variables assigns. -/
def fileAssignments (around : Surroundings) : List (String × String) :=
  match around.look variableFileName with
  | .ok bytes =>
    let pieces := VariableFile.physicalLines [] (VariableFile.skipMark bytes.toList)
    VariableFile.assignments pieces.length around.env pieces
  | .error _ => []

/-- A variable is set by the file of variables only if it is not set already. -/
theorem mem_environment (around : Surroundings) (entry : String × String) :
    entry ∈ environment around ↔
      entry ∈ around.env ∨
        around.env.lookup entry.1 = none ∧
          (fileAssignments around).lookup entry.1 = some entry.2 := by
  rw [environment, fileAssignments]
  cases around.look variableFileName with
  | ok bytes => exact VariableFile.mem_run _ _ _ entry
  | error fault => simp

/-- The text of the variable that gives a setting. -/
def variableText? (env : Variables) (name : String) : Option String :=
  (env.find? fun entry => settingOfVariable? entry.1 = some name).map Prod.snd

/-- The value that a variable's text gives. -/
def ofVariable (text : String) : Tree :=
  .leaf (some "the environment") (guess text)

theorem variableText?_cons (key text : String) (env : Variables) (name : String) :
    variableText? ((key, text) :: env) name =
      if settingOfVariable? key = some name then some text else variableText? env name := by
  by_cases h : settingOfVariable? key = some name <;> simp [variableText?, h]

theorem ofVariables_cons (key text : String) (env : Variables) :
    ofVariables ((key, text) :: env) =
      match settingOfVariable? key with
      | none => ofVariables env
      | some setting => (setting, ofVariable text) :: ofVariables env := by
  cases h : settingOfVariable? key <;> simp [ofVariables, ofVariable, h]

theorem toList_of_settingOfVariable {key setting : String}
    (h : settingOfVariable? key = some setting) :
    ∀ c ∈ setting.toList, c ∈ Text.lower key.toList := by
  rw [settingOfVariable?] at h
  split at h
  · obtain rfl : String.ofList _ = setting := by simpa using h
    intro c hc
    rw [String.toList_ofList] at hc
    exact List.mem_of_mem_drop hc
  · simp at h

/-- The names of the settings are in ASCII, and in lower case. -/
theorem names_lower :
    ∀ name ∈ names, Text.lowerString name = name ∧ name.toList.all fun c => c.toNat < 0x80 := by
  decide

/-- The case of the name that a variable gives is settled. -/
theorem lowerString_setting_eq_iff {key setting name : String}
    (h : settingOfVariable? key = some setting) (hname : name ∈ names) :
    Text.lowerString setting = name ↔ setting = name := by
  obtain ⟨hlower, hascii⟩ := names_lower name hname
  constructor
  · intro heq
    have hlist : Text.lower setting.toList = name.toList := by
      rw [← heq, Text.lowerString, String.toList_ofList]
    have hsame := Text.lower_eq_self (toList_of_settingOfVariable h) (by simpa [hlist] using hascii)
    rw [hsame] at hlist
    exact String.toList_inj.mp hlist
  · rintro rfl
    exact hlower

/-! ## Which value counts -/

/-- Sources that name no setting twice, whatever the case of the names, and of which no name is a
path. -/
structure Layered (file : Tree.Entries) (env : Variables) : Prop where
  file_once : ∀ name ∈ names, NamesOnce file name
  file_simple : ∀ entry ∈ file, IsSimpleName entry.1
  env_once : ∀ name ∈ names,
    (env.countP fun entry => settingOfVariable? entry.1 = some name) ≤ 1
  env_simple : ∀ entry ∈ env, settingOfVariable? entry.1 ≠ none → IsSimpleName entry.1

/-- Whether a value is a table with nothing in it. -/
def Tree.isEmpty : Tree → Bool
  | .table [] => true
  | _ => false

/-- The value with the names inside it in lower case. -/
def Tree.folded (value : Tree) : Tree :=
  Tree.merged none value

/-- The value of a setting in a configuration file. An empty table is none. -/
def fileValue? (file : Tree.Entries) (name : String) : Option Tree :=
  ((given? file name).filter fun value => !value.isEmpty).map Tree.folded

/-- The value that counts for a setting: that of its variable if one is set, otherwise that of the
configuration file if it has one, otherwise the default. -/
def winner (file : Tree.Entries) (env : Variables) (name : String) : Tree :=
  match variableText? env name with
  | some text => ofVariable text
  | none => (fileValue? file name).getD (defaults.valueAt name)

theorem Tree.set_leaf (origin : Option String) (value : Scalar) (name : String) (tree : Tree) :
    (Tree.leaf origin value).set name tree = (Tree.table []).set name tree := by
  cases tree <;> rfl

/-- A value replaces a default, unless it is an empty table. -/
theorem merged_leaf (origin : Option String) (old : Scalar) (value : Tree) :
    Tree.merged (some (.leaf origin old)) value =
      if value.isEmpty then .leaf origin old else value.folded := by
  match value with
  | .leaf origin' new => rfl
  | .table [] => rfl
  | .table ((name, inner) :: entries) =>
    show Tree.setAll ((Tree.leaf origin old).set name inner) entries = _
    rw [Tree.set_leaf]
    rfl

theorem given?_ofVariables (env : Variables) {name : String} (hname : name ∈ names) :
    given? (ofVariables env) name = (variableText? env name).map ofVariable := by
  induction env with
  | nil => rfl
  | cons entry env ih =>
    obtain ⟨key, text⟩ := entry
    rw [ofVariables_cons, variableText?_cons]
    cases hsetting : settingOfVariable? key with
    | none => rw [if_neg (by simp), ← ih]
    | some setting =>
      have hiff := lowerString_setting_eq_iff hsetting hname
      rw [given?_cons, ih]
      by_cases heq : setting = name
      · rw [if_pos (hiff.mpr heq), if_pos (congrArg some heq)]
        rfl
      · rw [if_neg (heq ∘ hiff.mp), if_neg (heq ∘ Option.some.inj)]

variable {file : Tree.Entries} {env : Variables}

theorem Layered.namesOnce_ofVariables (h : Layered file env) {name : String}
    (hname : name ∈ names) : NamesOnce (ofVariables env) name := by
  refine Nat.le_trans (Nat.le_of_eq ?_) (h.env_once name hname)
  rw [ofVariables, List.countP_filterMap]
  refine List.countP_congr fun entry _ => ?_
  cases hsetting : settingOfVariable? entry.1 with
  | none => simp [hsetting]
  | some setting => simp [hsetting, lowerString_setting_eq_iff hsetting hname]

theorem Layered.simple_ofVariables (h : Layered file env) :
    ∀ entry ∈ ofVariables env, IsSimpleName entry.1 := by
  intro entry hentry
  obtain ⟨⟨key, text⟩, hmem, hgives⟩ := List.mem_filterMap.mp hentry
  obtain ⟨setting, hsetting, rfl⟩ := Option.map_eq_some_iff.mp hgives
  have hchars := toList_of_settingOfVariable hsetting
  obtain ⟨hpoint, hbracket⟩ := h.env_simple _ hmem (by simp [hsetting])
  exact ⟨fun hx => hpoint (Text.mem_of_mem_lower (Or.inl rfl) (hchars _ hx)),
    fun hx => hbracket (Text.mem_of_mem_lower (Or.inr rfl) (hchars _ hx))⟩

/-- Every setting has a default, which is no table. -/
theorem lookup_defaults :
    ∀ name ∈ names, ∃ value, defaults.entries.lookup name = some (.leaf none value) := by
  intro name hname
  simp only [names, List.mem_cons, List.not_mem_nil, or_false] at hname
  rcases hname with rfl | rfl | rfl | rfl <;> exact ⟨_, rfl⟩

/-- The value that a setting has after all sources were added is the one that counts. -/
theorem Layered.valueAt_eq_winner (h : Layered file env) {name : String} (hname : name ∈ names) :
    ((defaults.add file).add (ofVariables env)).valueAt name = winner file env name := by
  obtain ⟨default, hdefault⟩ := lookup_defaults name hname
  rw [winner, fileValue?, Tree.valueAt, Tree.valueAt,
    lookup_add h.simple_ofVariables (h.namesOnce_ofVariables hname), given?_ofVariables env hname,
    lookup_add h.file_simple (h.file_once name hname), hdefault]
  cases variableText? env name with
  | some text => rfl
  | none =>
    cases given? file name with
    | none => rfl
    | some value =>
      simp only [Option.map_none, merged_leaf, Option.getD_some, Option.filter_some]
      cases hempty : value.isEmpty <;> simp

theorem winner_of_given {name : String} {value : Tree} (hvariable : variableText? env name = none)
    (hgiven : given? file name = some value) (hempty : value.isEmpty = false) :
    winner file env name = value.folded := by
  rw [winner, hvariable, fileValue?, hgiven, Option.filter_some]
  simp [hempty]

/-- Two pairs of sources have the same values that count if they have the same variables and, for
each setting without one, the same value in the file. -/
theorem winner_congr {file' : Tree.Entries} {env' : Variables} {name : String}
    (hvariable : variableText? env name = variableText? env' name)
    (hfile : variableText? env name = none → given? file name = given? file' name) :
    winner file env name = winner file' env' name := by
  rw [winner, winner, ← hvariable]
  cases htext : variableText? env name with
  | some text => rfl
  | none =>
    dsimp only
    rw [fileValue?, fileValue?, hfile htext]

/-! ## Loading -/

variable {around : Surroundings} {path : Option String}

theorem load_eq_ok_iff (hfile : fileEntries around.look path = .ok file) {s : Settings} :
    load around path = .ok s ↔
      ofTree ((defaults.add file).add (ofVariables (environment around))) = .ok s := by
  rw [load, hfile]
  dsimp only
  split <;> simp [*]

theorem load_eq_error_iff (hfile : fileEntries around.look path = .ok file) {fault : LoadFault} :
    load around path = .error fault ↔
      ∃ invalid, fault = .invalid invalid ∧
        ofTree ((defaults.add file).add (ofVariables (environment around))) = .error invalid := by
  rw [load, hfile]
  dsimp only
  split <;> simp [*, eq_comm]

theorem load_of_fileEntries_error {fault : LoadFault}
    (hfile : fileEntries around.look path = .error fault) : load around path = .error fault := by
  rw [load, hfile]

/-- The settings of a TOML file are those of its text. -/
theorem load_eq_ok_iff_ofToml? {found source : String}
    (hfound : findFile around.look (path.getD defaultName) = .ok ⟨found, .toml, source.toUTF8⟩)
    (hvars : NoSettings (environment around)) (s : Settings) :
    load around path = .ok s ↔ ofToml? source = .ok s := by
  have hfile := fileEntries_of_findFile hfound
  rw [parseFile, FileFormat.parse] at hfile
  rw [ofToml?, FileFormat.parse]
  cases hparse : Toml.parse source with
  | none =>
    rw [hparse] at hfile
    rw [load_of_fileEntries_error hfile]
    simp
  | some entries =>
    rw [hparse] at hfile
    -- the two trees differ in the origins of the file's values
    have hbare : (defaults.add (ofTomlEntries (some (Files.tidy found)) entries)).bare =
        defaults.add (ofTomlEntries none entries) := by
      rw [bare_add, bare_defaults, bare_ofTomlEntries]
    rw [load_eq_ok_iff hfile, ofVariables_eq_nil hvars, Tree.add_nil, ← ofTree_bare_eq_ok_iff,
      hbare]
    dsimp only [Option.map_some]
    split <;> simp [*]

/-- What the TOML file says that is used where no configuration file is asked for. -/
theorem fileEntries_default {look : String → Files.Lookup} {fault : Files.FileFault}
    {source : String} {entries : List (String × Toml.Value)}
    (hmissing : look "stackvm" = .error fault) (hlook : look "stackvm.toml" = .ok source.toUTF8)
    (hparse : Toml.parse source = some entries) :
    fileEntries look none = .ok (ofTomlEntries (some "stackvm.toml") entries) := by
  have hnamed : Files.named? "stackvm" = some "stackvm".toList := by decide
  have hname : withExtension "stackvm".toList .toml = "stackvm.toml" := by decide
  have hfind : findWithExtension look "stackvm".toList =
      some ⟨"stackvm.toml", .toml, source.toUTF8⟩ := by
    rw [findWithExtension, FileFormat.all, List.findSome?_cons]
    dsimp only
    rw [hname, hlook]
  have hfound : findFile look ((none : Option String).getD defaultName) =
      .ok ⟨"stackvm.toml", .toml, source.toUTF8⟩ := by
    rw [Option.getD_none, defaultName, findFile, hmissing, hnamed]
    dsimp only [Option.bind_some]
    rw [hfind]
  have htidy : Files.tidy "stackvm.toml" = "stackvm.toml" := by decide
  rw [fileEntries_of_findFile hfound, parseFile, FileFormat.parse, hparse]
  dsimp only [Option.map_some]
  rw [htidy]

/-- **Settings are layered.** Sources that name no setting twice are combined setting by setting:
the settings that are loaded are those that the values that count make, and loading fails only if
the file cannot be read, or with the fault of a value that counts. Nothing else in the sources
matters, neither values that are overridden nor names that are no settings. Variables come from the
environment, and from the file of variables where the environment does not have them. Without
variables that are settings, a TOML file gives the settings of its text. -/
theorem settings_are_layered :
    (∀ around path file, fileEntries around.look path = .ok file →
      Layered file (environment around) →
      (∀ s, load around path = .ok s ↔ Makes (winner file (environment around)) s) ∧
      ∀ fault, load around path = .error fault →
        ∃ invalid, fault = .invalid invalid ∧
          Refuses (winner file (environment around)) invalid) ∧
    (∀ around path fault, fileEntries around.look path = .error fault →
      load around path = .error fault) ∧
    (∀ around path file around' path' file',
      fileEntries around.look path = .ok file → Layered file (environment around) →
      fileEntries around'.look path' = .ok file' → Layered file' (environment around') →
      (∀ name ∈ names,
        variableText? (environment around) name = variableText? (environment around') name ∧
        (variableText? (environment around) name = none →
          given? file name = given? file' name)) →
      load around path = load around' path') ∧
    (∀ around entry, entry ∈ environment around ↔
      entry ∈ around.env ∨
        around.env.lookup entry.1 = none ∧
          (fileAssignments around).lookup entry.1 = some entry.2) ∧
    ∀ around path found source,
      findFile around.look (path.getD defaultName) = .ok ⟨found, .toml, source.toUTF8⟩ →
      NoSettings (environment around) →
      ∀ s, load around path = .ok s ↔ ofToml? source = .ok s := by
  refine ⟨?_, fun _ _ _ => load_of_fileEntries_error, ?_, mem_environment,
    fun _ _ _ _ => load_eq_ok_iff_ofToml?⟩
  · intro around path file hfile hlayered
    have hcounts := fun name (hname : name ∈ names) => hlayered.valueAt_eq_winner hname
    refine ⟨fun s => ?_, fun fault hfault => ?_⟩
    · rw [load_eq_ok_iff hfile, ofTree_eq_ok_iff]
      exact ⟨Makes.congr hcounts, Makes.congr fun name hname => (hcounts name hname).symm⟩
    · obtain ⟨invalid, rfl, htree⟩ := (load_eq_error_iff hfile).mp hfault
      exact ⟨invalid, rfl, (refuses_of_ofTree htree).congr hcounts⟩
  · intro around path file around' path' file' hfile hlayered hfile' hlayered' hsame
    have htrees := ofTree_congr fun name hname => calc
      _ = winner file (environment around) name := hlayered.valueAt_eq_winner hname
      _ = winner file' (environment around') name :=
        winner_congr (hsame name hname).1 (hsame name hname).2
      _ = _ := (hlayered'.valueAt_eq_winner hname).symm
    rw [load, hfile, load, hfile']
    dsimp only
    rw [htrees]

/-- A flag from the environment, over one in the file of variables and a list in the configuration
file; another from the file of variables; and a number and a word from the configuration file. -/
theorem settings_are_layered_mixed :
    let around : Surroundings :=
      { env := [("STACKVM_ECHO", "off"), ("HOME", "/")]
        look := fun path =>
          if path = "stackvm.toml" then
            .ok "ECHO = [1]\nlog_level = 3\nFormat = \"JSON\"\nextra = 1\n".toUTF8
          else if path = ".env" then .ok "STACKVM_ECHO=yes\nstackvm_show_stack=no\n".toUTF8
          else .error .missing }
    load around none =
      .ok { logLevel := "3", echo := false, showStack := false, format := .json } := by
  intro around
  let origin := some "stackvm.toml"
  let file : Tree.Entries :=
    [("ECHO", .leaf origin .sequence), ("log_level", .leaf origin (.integer 3)),
      ("Format", .leaf origin (.text "JSON")), ("extra", .leaf origin (.integer 1))]
  have hparse : Toml.parse "ECHO = [1]\nlog_level = 3\nFormat = \"JSON\"\nextra = 1\n" =
      some [("ECHO", .array [.integer 1]), ("log_level", .integer 3), ("Format", .string "JSON"),
        ("extra", .integer 1)] := by decide +kernel
  have hfile : fileEntries around.look none = .ok file := by
    have hmissing : around.look "stackvm" = .error .missing := rfl
    exact fileEntries_default hmissing rfl hparse
  have hlayered : Layered file (environment around) :=
    ⟨by decide +kernel, by decide +kernel, by decide +kernel, by decide +kernel⟩
  have henv : environment around =
      [("STACKVM_ECHO", "off"), ("HOME", "/"), ("stackvm_show_stack", "no")] := by decide +kernel
  refine ((settings_are_layered.1 around none file hfile hlayered).1 _).mpr ?_
  rw [henv]
  have hlevel : given? file "log_level" = some (.leaf origin (.integer 3)) := by
    rw [given?_cons, if_neg (by decide), given?_cons, if_pos (by decide)]
  have hformat : given? file "format" = some (.leaf origin (.text "JSON")) := by
    rw [given?_cons, if_neg (by decide), given?_cons, if_neg (by decide), given?_cons,
      if_pos (by decide)]
  refine ⟨?_, rfl, rfl, ?_⟩
  · rw [winner_of_given rfl hlevel rfl]
    rfl
  · rw [winner_of_given rfl hformat rfl]
    show formatOfName "JSON" = .ok .json
    exact (if_neg (by decide)).trans (if_pos (by decide))

/-- An empty table in the configuration file is no value of a setting, although no flag is made of
it: the default counts. -/
theorem empty_table_is_passed_over :
    let around : Surroundings :=
      { env := [("HOME", "/")]
        look := fun path =>
          if path = "stackvm.toml" then .ok "echo = \x7b\x7d\n".toUTF8 else .error .missing }
    let file : Tree.Entries := [("echo", .table [])]
    fileEntries around.look none = .ok file ∧ Layered file (environment around) ∧
      variableText? (environment around) "echo" = none ∧ given? file "echo" = some (.table []) ∧
      toFlag "echo" (.table []) = .error (.unfit .map .boolean "echo" none) ∧
      load around none = .ok {} := by
  intro around file
  have hparse : Toml.parse "echo = \x7b\x7d\n" = some [("echo", .table [])] := by decide +kernel
  have hfile : fileEntries around.look none = .ok file := by
    have hmissing : around.look "stackvm" = .error .missing := rfl
    exact fileEntries_default hmissing rfl hparse
  have hlayered : Layered file (environment around) :=
    ⟨by decide +kernel, by decide +kernel, by decide +kernel, by decide +kernel⟩
  refine ⟨hfile, hlayered, by decide +kernel, rfl, rfl, ?_⟩
  rw [load_eq_ok_iff hfile]
  rfl

end StackMachine.Settings
