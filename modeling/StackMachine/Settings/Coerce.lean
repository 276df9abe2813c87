import StackMachine.Decimal.Layout
import StackMachine.Settings.Basic
import StackMachine.Settings.Tree

/-!
# From trees to settings

What each setting accepts. Only the value that won over all others is looked at, and it may come in
several shapes: a flag may be a number or a word, a text may be a number.
-/

namespace StackMachine.Settings

/-- What is found in place of a flag or a text. -/
inductive Unfit where
  | text (value : String)
  | nothing
  | sequence
  | map
  deriving DecidableEq, Repr

/-- The kind of value that a setting has. -/
inductive Kind where
  | boolean
  | string
  deriving DecidableEq, Repr

/-- Why a tree makes no settings. -/
inductive Invalid where
  /-- A value is of the wrong kind. -/
  | unfit (found : Unfit) (wanted : Kind) (key : String) (origin : Option String)
  /-- No output format has this name. -/
  | unknownFormat (name : String)
  /-- The output format is given neither by a text nor by a table with one name in it. -/
  | formatShape
  deriving DecidableEq, Repr

/-! ## Messages -/

/-- The text of a value of the wrong kind. -/
def Unfit.message : Unfit → String
  | text value => "string " ++ Text.quote value
  | nothing => "unit value"
  | sequence => "sequence"
  | map => "map"

/-- The text of a kind. -/
def Kind.message : Kind → String
  | boolean => "a boolean"
  | string => "a string"

/-- The message of a tree that makes no settings. -/
def Invalid.message : Invalid → String
  | unfit found wanted key origin =>
    "invalid type: " ++ found.message ++ ", expected " ++ wanted.message ++ " for key `" ++ key ++
      "`" ++ (origin.elim "" fun origin => " in " ++ origin)
  | unknownFormat name => "enum OutputFormat does not have variant constructor " ++ name
  | formatShape =>
    "value of enum OutputFormat should be represented by either string or table with exactly " ++
      "one key"

/-! ## Values -/

/-- Floating-point numbers as settings: all digits, without exponents, and whole numbers without a
point. -/
def floatLayout : Decimal.Layout where
  tie := .up
  positional _ := true
  whole := ""
  nan := "NaN"
  infinite := "inf"

/-- Whether a floating-point number counts as true: everything but zero does. -/
def isTrue : Decimal.Binary64 → Bool
  | .nan => true
  | .number _ magnitude => !magnitude.isZero

/-- The flag that a word stands for. -/
def flagOfWord? (word : String) : Option Bool :=
  if word ∈ ["1", "true", "on", "yes"] then some true
  else if word ∈ ["0", "false", "off", "no"] then some false
  else none

/-- The flag that a tree gives. -/
def toFlag (key : String) : Tree → Except Invalid Bool
  | .table _ => .error (.unfit .map .boolean key none)
  | .leaf origin value =>
    match value with
    | .boolean flag => .ok flag
    | .integer n => .ok (n != 0)
    | .floating x => .ok (isTrue x)
    | .text s =>
      match flagOfWord? (Text.lowerString s) with
      | some flag => .ok flag
      | none => .error (.unfit (.text (Text.lowerString s)) .boolean key origin)
    | .nothing => .error (.unfit .nothing .boolean key origin)
    | .sequence => .error (.unfit .sequence .boolean key origin)

/-- The text that a tree gives. -/
def toText (key : String) : Tree → Except Invalid String
  | .table _ => .error (.unfit .map .string key none)
  | .leaf origin value =>
    match value with
    | .text s => .ok s
    | .boolean flag => .ok (toString flag)
    | .integer n => .ok (toString n)
    | .floating x => .ok (String.ofList (floatLayout.text x))
    | .nothing => .error (.unfit .nothing .string key origin)
    | .sequence => .error (.unfit .sequence .string key origin)

/-- The output format with a name. Case does not count. -/
def formatOfName (name : String) : Except Invalid OutputFormat :=
  if Text.lowerString name = OutputFormat.text.name then .ok .text
  else if Text.lowerString name = OutputFormat.json.name then .ok .json
  else .error (.unknownFormat name)

/-- The output format that a tree gives. -/
def toFormat : Tree → Except Invalid OutputFormat
  | .table [(name, _)] => formatOfName name
  | .leaf _ (.text name) => formatOfName name
  | _ => .error .formatShape

/-! ## Settings -/

/-- The settings that count where no source says anything. -/
def defaults : Tree :=
  let s : Settings := {}
  .table [("log_level", .leaf none (.text s.logLevel)), ("echo", .leaf none (.boolean s.echo)),
    ("show_stack", .leaf none (.boolean s.showStack)),
    ("format", .leaf none (.text s.format.name))]

/-- The settings that a tree makes. Other names in it do not count. -/
def ofTree (tree : Tree) : Except Invalid Settings :=
  let find (name : String) : Tree := (tree.entries.lookup name).getD (.leaf none .nothing)
  match toText "log_level" (find "log_level") with
  | .error invalid => .error invalid
  | .ok logLevel =>
    match toFlag "echo" (find "echo") with
    | .error invalid => .error invalid
    | .ok echo =>
      match toFlag "show_stack" (find "show_stack") with
      | .error invalid => .error invalid
      | .ok showStack =>
        match toFormat (find "format") with
        | .error invalid => .error invalid
        | .ok format => .ok { logLevel, echo, showStack, format }

end StackMachine.Settings
