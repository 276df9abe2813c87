import StackMachine.CommandLine.Run
import StackMachine.Proofs.Toml.Lines

/-!
# Settings that are shown and loaded

The document that is written for settings gives the same settings when it is read, and so does the
output of the command that shows them when it is the configuration file
(`shown_settings_are_loaded`).

The document is one of lines, so `Toml.parse_writeLines` tells its entries. They have the names of
the defaults and replace all of them, and every setting accepts the kind of value that is written
for it.
-/

namespace StackMachine.Settings

/-! ## The document -/

/-- The entries of the settings in a document. -/
def fields (s : Settings) : List (String × Toml.Field) :=
  [("log_level", .text s.logLevel), ("echo", .flag s.echo), ("show_stack", .flag s.showStack),
    ("format", .text s.format.name)]

theorem write_eq_writeLines (s : Settings) : s.write = Toml.writeLines s.fields := by
  have hlevel : "log_level = ".toList = "log_level".toList ++ " = ".toList := by decide
  have hecho : "\necho = ".toList = ['\n'] ++ "echo".toList ++ " = ".toList := by decide
  have hstack : "\nshow_stack = ".toList = ['\n'] ++ "show_stack".toList ++ " = ".toList := by
    decide
  have hformat : "\nformat = ".toList = ['\n'] ++ "format".toList ++ " = ".toList := by decide
  unfold write fields Toml.writeLines Toml.writeLine Toml.Field.write
  rw [hlevel, hecho, hstack, hformat]
  simp only [List.flatMap_cons, List.flatMap_nil, List.append_assoc, List.append_nil]

theorem parse_toToml (s : Settings) :
    Toml.parse s.toToml = some (s.fields.map fun entry => (entry.1, entry.2.value)) := by
  have hkeys : ∀ key ∈ s.fields.map Prod.fst, Toml.IsBareKey key := by
    show ∀ key ∈ ["log_level", "echo", "show_stack", "format"], Toml.IsBareKey key
    decide
  have hnodup : (s.fields.map Prod.fst).Nodup := by
    show ["log_level", "echo", "show_stack", "format"].Nodup
    decide
  rw [toToml, write_eq_writeLines, Toml.parse_writeLines _ hnodup]
  exact fun entry hentry => hkeys entry.1 (List.mem_map_of_mem hentry)

/-! ## The tree -/

/-- The named trees of settings that a source gives. -/
def trees (origin : Option String) (s : Settings) : Tree.Entries :=
  [("log_level", .leaf origin (.text s.logLevel)), ("echo", .leaf origin (.boolean s.echo)),
    ("show_stack", .leaf origin (.boolean s.showStack)),
    ("format", .leaf origin (.text s.format.name))]

theorem parse_toToml_eq_trees (origin : Option String) (s : Settings) :
    FileFormat.toml.parse origin s.toToml = some (s.trees origin) := by
  rw [FileFormat.parse, parse_toToml]
  rfl

/-- A name that stands for itself: it is no path, and in lower case. -/
def IsPlainName (name : String) : Prop :=
  readPath name = (name, []) ∧ Text.lowerString name = name

instance (name : String) : Decidable (IsPlainName name) :=
  inferInstanceAs (Decidable (_ ∧ _))

/-- A value under a plain name takes the place of the one that the table had. -/
theorem Tree.add_leaf_cons {name : String} (hname : IsPlainName name) (entries : Tree.Entries)
    (origin : Option String) (value : Scalar) (source : Tree.Entries) :
    (Tree.table entries).add ((name, .leaf origin value) :: source) =
      (Tree.table (Tree.Entries.set entries name (.leaf origin value))).add source := by
  obtain ⟨hpath, hlower⟩ := hname
  rw [Tree.add, List.foldl_cons]
  dsimp only
  rw [hpath]
  dsimp only
  rw [Tree.setPath, Tree.set, hlower]
  rfl

theorem Tree.add_nil (tree : Tree) : tree.add [] = tree := rfl

/-- Settings that a source gives replace all defaults, as they have the same names. -/
theorem add_trees (origin : Option String) (s : Settings) :
    defaults.add (s.trees origin) = .table (s.trees origin) := by
  rw [trees, defaults, Tree.add_leaf_cons (by decide), Tree.add_leaf_cons (by decide),
    Tree.add_leaf_cons (by decide), Tree.add_leaf_cons (by decide), Tree.add_nil]
  rfl

/-- Every format is found by its name. -/
theorem formatOfName_name (format : OutputFormat) : formatOfName format.name = .ok format := by
  cases format with
  | text => exact if_pos (by decide)
  | json => exact (if_neg (by decide)).trans (if_pos (by decide))

theorem ofTree_trees (origin : Option String) (s : Settings) :
    ofTree (.table (s.trees origin)) = .ok s := by
  have hformat := formatOfName_name s.format
  simp [ofTree, trees, Tree.entries, List.lookup_cons, toText, toFlag, toFormat, hformat]

/-- The document that is written for settings gives these settings. -/
theorem ofToml?_toToml (s : Settings) : ofToml? s.toToml = .ok s := by
  rw [ofToml?, parse_toToml_eq_trees]
  dsimp only
  rw [add_trees, ofTree_trees]

/-! ## Files -/

/-- A TOML file that was found is what the configuration says, whether or not it was asked for. -/
theorem fileEntries_of_findFile {look : String → Files.Lookup} {path : Option String}
    {found source : String}
    (hfile : findFile look (path.getD defaultName) = .ok ⟨found, .toml, source.toUTF8⟩) :
    fileEntries look path = parseFile ⟨found, .toml, source.toUTF8⟩ source := by
  have hread : readFile look (path.getD defaultName) =
      .ok (⟨found, .toml, source.toUTF8⟩, source) := by
    rw [readFile, hfile]
    dsimp only
    rw [Files.text_toUTF8]
  -- the two kinds of paths differ only in what a file that is not there means
  cases path with
  | none =>
    rw [Option.getD_none] at hread
    rw [fileEntries, hread]
  | some path =>
    rw [Option.getD_some] at hread
    rw [fileEntries, hread]

/-- A configuration file with the settings as a document says what the settings are. -/
theorem fileEntries_of_toToml {look : String → Files.Lookup} {path : Option String} {found : String}
    {s : Settings}
    (hfile : findFile look (path.getD defaultName) = .ok ⟨found, .toml, s.toToml.toUTF8⟩) :
    fileEntries look path = .ok (s.trees (some (Files.tidy found))) := by
  rw [fileEntries_of_findFile hfile, parseFile, parse_toToml_eq_trees]

/-- No variable gives a setting. -/
def NoSettings (env : Variables) : Prop :=
  ∀ entry ∈ env, settingOfVariable? entry.1 = none

instance (env : Variables) : Decidable (NoSettings env) :=
  List.decidableBAll _ env

/-- Variables that are no settings say nothing. -/
theorem ofVariables_eq_nil {env : Variables} (h : NoSettings env) : ofVariables env = [] := by
  rw [ofVariables, List.filterMap_eq_nil_iff]
  intro entry hentry
  dsimp only
  rw [h entry hentry, Option.map_none]

theorem load_of_toToml {around : Surroundings} {path : Option String} {found : String}
    {s : Settings}
    (hfile : findFile around.look (path.getD defaultName) = .ok ⟨found, .toml, s.toToml.toUTF8⟩)
    (hvars : NoSettings (environment around)) :
    load around path = .ok s := by
  rw [load, fileEntries_of_toToml hfile]
  dsimp only
  rw [ofVariables_eq_nil hvars, add_trees, Tree.add_nil, ofTree_trees]

end StackMachine.Settings

namespace StackMachine.CommandLine

open StackMachine.Settings

theorem execute_config {around : Surroundings} {path : Option String} {s : Settings}
    (hload : load around path = .ok s) :
    (⟨path, .config⟩ : Invocation).execute around =
      ⟨s.toToml, [configuredEntry s], .ok ()⟩ := by
  rw [Invocation.execute, hload]
  simp [Command.execute, Outcome.write, Outcome.after]

/-- **Settings survive being written.** Read from their document they are the same settings. The
command that shows settings writes this document, and where it is the configuration file and no
variable is a setting, the same settings are loaded and shown with the same text. -/
theorem shown_settings_are_loaded (s : Settings) :
    ofToml? s.toToml = .ok s ∧
      (∀ around path, load around path = .ok s →
        (⟨path, .config⟩ : Invocation).execute around =
          ⟨s.toToml, [configuredEntry s], .ok ()⟩) ∧
      ∀ around path found,
        findFile around.look (path.getD defaultName) = .ok ⟨found, .toml, s.toToml.toUTF8⟩ →
        NoSettings (environment around) →
        load around path = .ok s ∧
          (⟨path, .config⟩ : Invocation).execute around =
            ⟨s.toToml, [configuredEntry s], .ok ()⟩ := by
  refine ⟨ofToml?_toToml s, fun _ _ => execute_config, ?_⟩
  intro around path found hfile hvars
  have hload := load_of_toToml hfile hvars
  exact ⟨hload, execute_config hload⟩

/-- Settings with quotes of both kinds, a line end and a tab, from the default file. -/
theorem shown_settings_are_loaded_quoted :
    let s : Settings := { logLevel := "'''\n\"\"\"\t", echo := false, format := .json }
    let around : Surroundings :=
      { env := [("HOME", "/")]
        look := fun path =>
          if path = "stackvm.toml" then .ok s.toToml.toUTF8 else .error .missing }
    s.toToml =
      "log_level = \"\"\"\n'''\n\"\"\\\"\\t\"\"\"\n" ++
        "echo = false\nshow_stack = true\nformat = \"json\"\n" ∧
      load around none = .ok s := by
  intro s around
  refine ⟨by decide, ?_⟩
  have hvars : NoSettings (environment around) := by
    show NoSettings [("HOME", "/")]
    decide
  exact ((shown_settings_are_loaded s).2.2 around none "stackvm.toml" rfl hvars).1

end StackMachine.CommandLine
