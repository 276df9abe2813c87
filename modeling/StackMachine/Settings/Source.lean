import StackMachine.Decimal.Parse
import StackMachine.Json.Document
import StackMachine.Settings.Tree
import StackMachine.Toml.Document

/-!
# Sources of settings

What configuration files and environment variables say, as named trees. Configuration files are
TOML or JSON; YAML, INI, RON and JSON5 are left out.
-/

namespace StackMachine.Settings

/-! ## Files -/

mutual

/-- The tree of a TOML value. -/
def ofToml (origin : Option String) : Toml.Value → Tree
  | .string s => .leaf origin (.text s)
  | .integer n => .leaf origin (.integer n)
  | .float x => .leaf origin (.floating x)
  | .boolean b => .leaf origin (.boolean b)
  | .moment s => .leaf origin (.text s)
  | .array _ => .leaf origin .sequence
  | .table entries => .table (ofTomlEntries origin entries)

/-- The trees of TOML entries. -/
def ofTomlEntries (origin : Option String) : List (String × Toml.Value) → Tree.Entries
  | [] => []
  | (name, value) :: entries => (name, ofToml origin value) :: ofTomlEntries origin entries

end

/-- The value of a JSON number. An integer that does not fit in 64 bits is a floating-point number.
-/
def ofJsonNumber : Json.Number → Scalar
  | .floating x => .floating x
  | .integer n =>
    if n ≤ 9223372036854775807 then .integer n
    else .floating (.number false (.ofNat n.natAbs))

mutual

/-- The tree of a JSON value. -/
def ofJson (origin : Option String) : Json.Value → Tree
  | .null => .leaf origin .nothing
  | .boolean b => .leaf origin (.boolean b)
  | .number n => .leaf origin (ofJsonNumber n)
  | .string s => .leaf origin (.text s)
  | .list _ => .leaf origin .sequence
  | .object members => .table (ofJsonMembers origin [] members)

/-- The trees of JSON members, after others. A later member replaces an earlier one. -/
def ofJsonMembers (origin : Option String) (before : Tree.Entries) :
    List (String × Json.Value) → Tree.Entries
  | [] => before
  | (name, value) :: members =>
    ofJsonMembers origin (Tree.Entries.set before name (ofJson origin value)) members

end

/-- The formats of configuration files. The formats YAML, INI, RON and JSON5 are left out: a file
whose name tells one of them counts as a file of no known format. -/
inductive FileFormat where
  | toml
  | json
  deriving DecidableEq, Repr

/-- The extension of a file's name. -/
def FileFormat.extension : FileFormat → String
  | toml => "toml"
  | json => "json"

/-- The formats, in the order in which their extensions are tried. The order matters only where a
directory has default files of several formats. Which of them is taken is then left open by the
rules of the formats; here it is always the first one. -/
def FileFormat.all : List FileFormat := [toml, json]

/-- The named trees that a configuration text holds, if it is well formed. -/
def FileFormat.parse (format : FileFormat) (origin : Option String) (source : String) :
    Option Tree.Entries :=
  match format with
  | toml => (Toml.parse source).map (ofTomlEntries origin)
  | json =>
    match Json.parse source with
    | .ok (.object members) => some (ofJsonMembers origin [] members)
    | _ => none

/-! ## The environment -/

/-- The variables of the environment. -/
abbrev Variables := List (String × String)

/-- How the name of a variable that is a setting starts, in lower case. -/
def variableStart : List Char := "stackvm_".toList

/-- The value that a variable's text stands for: a flag, an integer, a floating-point number, or
else the text. -/
def guess (value : String) : Scalar :=
  let lower := Text.lowerString value
  if lower = "true" then .boolean true
  else if lower = "false" then .boolean false
  else
    match Decimal.integer? value.toList with
    | some n => .integer n
    | none =>
      match Decimal.float? value.toList with
      | some x => .floating x
      | none => .text value

/-- The name of the setting that a variable gives, if it gives one. -/
def settingOfVariable? (name : String) : Option String :=
  let lower := Text.lower name.toList
  if variableStart.isPrefixOf lower then some (String.ofList (lower.drop variableStart.length))
  else none

/-- The named trees that the environment holds. -/
def ofVariables (env : Variables) : Tree.Entries :=
  env.filterMap fun (name, value) =>
    (settingOfVariable? name).map fun setting =>
      (setting, .leaf (some "the environment") (guess value))

end StackMachine.Settings
