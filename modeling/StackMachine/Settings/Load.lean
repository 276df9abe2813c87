import StackMachine.Files
import StackMachine.Settings.Coerce
import StackMachine.Settings.VariableFile

/-!
# Loading settings

Settings come from three sources: the defaults, a configuration file, and the environment, to which
a file of variables is added first. For each setting the last source that has it counts.

Left out are formats of configuration files besides TOML and JSON, files of variables in directories
above the working directory, and the reasons why a configuration file that is there cannot be read:
such a file counts as missing.
-/

namespace StackMachine

/-- What a command finds around it: the variables of its environment and what its paths lead to. -/
structure Surroundings where
  env : Settings.Variables
  look : String → Files.Lookup

namespace Settings

/-- Why settings cannot be loaded. -/
inductive LoadFault where
  /-- There is no configuration file under the path. -/
  | notFound (path : String)
  /-- The name of the configuration file does not tell a known format. -/
  | unknownFormat (path : String)
  /-- The configuration file is no text. -/
  | notText
  /-- The configuration file is not well formed. -/
  | malformed
  /-- A setting has an unfit value. -/
  | invalid (unfit : Invalid)
  deriving DecidableEq, Repr

/-- The message of settings that cannot be loaded. Which rule of its format a malformed file breaks,
and where, is left out. -/
def LoadFault.message : LoadFault → String
  | notFound path =>
    "Failed to load configuration: configuration file \"" ++ path ++ "\" not found"
  | unknownFormat path =>
    "Failed to load configuration: configuration file \"" ++ path ++
      "\" is not of a registered file format"
  | notText => "Failed to load configuration: " ++ Files.FileFault.notText.message
  | malformed => "Failed to load configuration"
  | invalid unfit => "Invalid configuration: " ++ unfit.message

/-! ## The configuration file -/

/-- A configuration file that was found. -/
structure ConfigurationFile where
  path : String
  format : FileFormat
  bytes : ByteArray

/-- The format that the extension of a path tells. -/
def formatOfPath? (path : String) : Option FileFormat :=
  FileFormat.all.find? fun format => Files.extension? path = some format.extension.toList

/-- A name with the extension of a format. -/
def withExtension (name : List Char) (format : FileFormat) : String :=
  String.ofList (name ++ '.' :: format.extension.toList)

/-- The first file whose name is the given one with the extension of a format. -/
def findWithExtension (look : String → Files.Lookup) (name : List Char) :
    Option ConfigurationFile :=
  FileFormat.all.findSome? fun format =>
    let path := withExtension name format
    match look path with
    | .ok bytes => some ⟨path, format, bytes⟩
    | .error _ => none

/-- Finds a configuration file: the one under the path itself, whose name must then tell its format,
or else the one under the path with an extension. A path that cannot be looked up, for whatever
reason, counts as one without a file. -/
def findFile (look : String → Files.Lookup) (path : String) :
    Except LoadFault ConfigurationFile :=
  match look path with
  | .ok bytes =>
    match formatOfPath? path with
    | some format => .ok ⟨path, format, bytes⟩
    | none => .error (.unknownFormat path)
  | .error _ =>
    match (Files.named? path).bind (findWithExtension look) with
    | some file => .ok file
    | none => .error (.notFound path)

/-- The text of a configuration file that must be there. -/
def readFile (look : String → Files.Lookup) (path : String) :
    Except LoadFault (ConfigurationFile × String) :=
  match findFile look path with
  | .error fault => .error fault
  | .ok file =>
    match Files.text file.bytes with
    | .error _ => .error .notText
    | .ok source => .ok (file, source)

/-- The named trees of a configuration file. -/
def parseFile (file : ConfigurationFile) (source : String) : Except LoadFault Tree.Entries :=
  match file.format.parse (some (Files.tidy file.path)) source with
  | some entries => .ok entries
  | none => .error .malformed

/-- The name of the configuration file that is used where none is asked for, without extension. -/
def defaultName : String := "stackvm"

/-- What the configuration file says. A file that is asked for must be there; the default one is
left out when it is not there or no text. -/
def fileEntries (look : String → Files.Lookup) (path : Option String) :
    Except LoadFault Tree.Entries :=
  match path with
  | some path =>
    match readFile look path with
    | .error fault => .error fault
    | .ok (file, source) => parseFile file source
  | none =>
    match readFile look defaultName with
    | .error _ => .ok []
    | .ok (file, source) => parseFile file source

/-- The paths that are looked up to find a configuration file. -/
def configurationPaths (path : Option String) : List String :=
  let path := path.getD defaultName
  path :: match Files.named? path with
    | none => []
    | some name => FileFormat.all.map fun format => withExtension name format

/-! ## All sources -/

/-- The name of the file of variables. -/
def variableFileName : String := ".env"

/-- The environment with the variables of the file in the working directory. The search for such a
file in the directories above is left out, and a file that cannot be read counts as missing. -/
def environment (around : Surroundings) : Variables :=
  match around.look variableFileName with
  | .ok bytes => VariableFile.load bytes around.env
  | .error _ => around.env

/-- Loads the settings, with the configuration file under a path or the default one. -/
def load (around : Surroundings) (path : Option String) : Except LoadFault Settings :=
  match fileEntries around.look path with
  | .error fault => .error fault
  | .ok entries =>
    match ofTree ((defaults.add entries).add (ofVariables (environment around))) with
    | .error unfit => .error (.invalid unfit)
    | .ok settings => .ok settings

/-! ## Settings from a text alone -/

/-- Why a text gives no settings. -/
inductive TextFault where
  | malformed
  | invalid (unfit : Invalid)
  deriving DecidableEq, Repr

/-- The message of a text that gives no settings. As for files, what is malformed is left out. -/
def TextFault.message : TextFault → String
  | malformed => "Failed to parse configuration"
  | invalid unfit => "Invalid configuration: " ++ unfit.message

/-- The settings that a TOML text gives over the defaults. -/
def ofToml? (source : String) : Except TextFault Settings :=
  match FileFormat.toml.parse none source with
  | none => .error .malformed
  | some entries =>
    match ofTree (defaults.add entries) with
    | .error unfit => .error (.invalid unfit)
    | .ok settings => .ok settings

end Settings

end StackMachine
