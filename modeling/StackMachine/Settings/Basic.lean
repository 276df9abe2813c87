import StackMachine.Text.Quoted
import StackMachine.Toml.Write

/-!
# Settings

How the command line presents a run. The machine itself has no settings.
-/

namespace StackMachine

/-- The form of the output. -/
inductive OutputFormat where
  /-- Lines for people. -/
  | text
  /-- One report per run, for programs. -/
  | json
  deriving DecidableEq, Repr

namespace OutputFormat

/-- The word for a format. -/
def name : OutputFormat → String
  | text => "text"
  | json => "json"

/-- The label of a format in log entries. -/
def label : OutputFormat → String
  | text => "Text"
  | json => "Json"

end OutputFormat

/-- How runs are presented. -/
structure Settings where
  /-- Which log entries are shown. -/
  logLevel : String := "info"
  /-- Whether each printed value is shown at once. -/
  echo : Bool := true
  /-- Whether the stack is shown after a run. -/
  showStack : Bool := true
  format : OutputFormat := .text
  deriving DecidableEq, Repr

namespace Settings

/-- The settings as a TOML document, one line for each. -/
def write (s : Settings) : List Char :=
  "log_level = ".toList ++ Toml.writeString s.logLevel.toList ++
    "\necho = ".toList ++ (toString s.echo).toList ++
    "\nshow_stack = ".toList ++ (toString s.showStack).toList ++
    "\nformat = ".toList ++ Toml.writeString s.format.name.toList ++ ['\n']

/-- The settings as a TOML document. -/
def toToml (s : Settings) : String :=
  String.ofList s.write

/-- The settings as log entries show them. -/
def display (s : Settings) : String :=
  "Settings \x7b log_level: " ++ Text.quote s.logLevel ++ ", echo: " ++ toString s.echo ++
    ", show_stack: " ++ toString s.showStack ++ ", format: " ++ s.format.label ++ " \x7d"

end Settings

end StackMachine
