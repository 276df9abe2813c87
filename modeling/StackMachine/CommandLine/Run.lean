import StackMachine.CommandLine.Arguments
import StackMachine.Program.Source
import StackMachine.Report
import StackMachine.Settings.Load

/-!
# Commands

What each command writes and how it ends. The settings are loaded before anything else, so nothing
is written when they cannot be; and a program file is read before anything about it is written.
-/

namespace StackMachine.CommandLine

/-- Why a command ends without success. -/
inductive CommandFault where
  | settings (fault : Settings.LoadFault)
  | program (fault : Program.LoadFault)
  | unknownDemo (name : String)
  /-- The instruction with this number failed. -/
  | failed (counter : Nat) (fault : Fault)
  deriving DecidableEq, Repr

/-- The message of a command that ends without success. -/
def CommandFault.message : CommandFault → String
  | settings fault => fault.message
  | program fault => fault.message
  | unknownDemo name => "Unknown demo: " ++ name
  | failed counter fault =>
    "Program failed at instruction " ++ toString counter ++ ": " ++ fault.message

/-- What a command leaves behind. -/
structure Outcome where
  /-- The text on the output. -/
  output : String
  /-- The log entries, in order. -/
  log : List Log.Entry
  result : Except CommandFault Unit

namespace Outcome

/-- The outcome of a command that ends at once. -/
def refuse (fault : CommandFault) : Outcome :=
  ⟨"", [], .error fault⟩

/-- The outcome of a command that writes a text and succeeds. -/
def write (output : String) : Outcome :=
  ⟨output, [], .ok ()⟩

/-- Places output and log entries in front of an outcome. -/
def after (outcome : Outcome) (output : String) (log : List Log.Entry) : Outcome :=
  { outcome with output := output ++ outcome.output, log := log ++ outcome.log }

/-- One outcome and, if it is a success, the next one. -/
def andThen (first next : Outcome) : Outcome :=
  match first.result with
  | .ok () => next.after first.output first.log
  | .error _ => first

end Outcome

/-- A text of lines. -/
def lines (texts : List String) : String :=
  String.join (texts.map (· ++ "\n"))

/-- Words in brackets, with commas between them. -/
def bracketed (values : List Int64) : String :=
  "[" ++ String.intercalate ", " (values.map fun value => toString value.toInt) ++ "]"

/-! ## Runs -/

/-- What is written about a run. -/
def presentation (settings : Settings) (name : Option String)
    (trace : Machine.Trace (List Int64)) : List String :=
  match settings.format with
  | .json => [(RunReport.ofTrace name trace).render]
  | .text =>
    (if settings.echo then trace.seen.map fun value => toString value.toInt
      else ["Output: " ++ bracketed trace.machine.output]) ++
    if settings.showStack then ["Stack: " ++ bracketed trace.machine.operands] else []

/-- The log entry of a program that failed. -/
def failedEntry (counter : Nat) (fault : Fault) : Log.Entry :=
  ⟨.error, "Program failed", [("code", .text fault.code), ("pc", .number counter)]⟩

/-- Executes a program and presents the run. -/
def runProgram (settings : Settings) (name : Option String) (program : Program) : Outcome :=
  let trace := Machine.new.execute program
  let output := lines (presentation settings name trace)
  let log := trace.events.map Machine.Event.entry
  match trace.result with
  | .ok _ => ⟨output, log, .ok ()⟩
  | .error fault =>
    let counter := trace.machine.counter
    ⟨output, log ++ [failedEntry counter fault], .error (.failed counter fault)⟩

/-! ## Demonstrations -/

/-- What is written in front of a demonstration: its title, with an empty line between two of them.
-/
def demoLead (settings : Settings) (index : Nat) (demo : Demo) : String :=
  match settings.format with
  | .json => ""
  | .text =>
    lines ((if index = 0 then [] else [""]) ++
      ["Example " ++ toString (index + 1) ++ ": " ++ demo.title])

/-- Runs demonstrations, numbered from an index on, until one fails. -/
def runDemos (settings : Settings) (index : Nat) : List Demo → Outcome
  | [] => .write ""
  | demo :: demos =>
    let run := runProgram settings demo.name demo.program
    let first := run.after (demoLead settings index demo) []
    first.andThen (runDemos settings (index + 1) demos)

/-! ## Checks -/

/-- What is written about a program file. -/
def checkLines (settings : Settings) (report : CheckReport) : List String :=
  match settings.format with
  | .json => [report.render]
  | .text =>
    (report.file ++ ": " ++ toString report.instructions ++ " instruction(s)") ::
      if report.unknownOpcodes = [] then []
      else ["Unknown opcodes: " ++ String.intercalate ", " report.unknownOpcodes]

/-! ## Commands -/

/-- Reads a program file and goes on with the program. -/
def withProgram (look : String → Files.Lookup) (file : String) (next : Program → Outcome) :
    Outcome :=
  match Program.load look file with
  | .error fault => .refuse (.program fault)
  | .ok program => (next program).after "" [Program.loadedEntry file program]

/-- Carries out a command with settings. -/
def Command.execute (look : String → Files.Lookup) (settings : Settings) : Command → Outcome
  | run file => withProgram look file (runProgram settings none)
  | demo none => runDemos settings 0 Demo.all
  | demo (some name) =>
    match Demo.find? name with
    | none => .refuse (.unknownDemo name)
    | some chosen => runDemos settings 0 [chosen]
  | check file =>
    withProgram look file fun program =>
      .write (lines (checkLines settings (.ofProgram file program)))
  | config => .write settings.toToml

/-- The paths of the files that a command reads. -/
def Command.paths : Command → List String
  | run file => [file]
  | demo _ => []
  | check file => [file]
  | config => []

/-- The paths that are looked up to carry out what the arguments ask for. -/
def Invocation.paths (invocation : Invocation) : List String :=
  Settings.variableFileName :: Settings.configurationPaths invocation.configuration ++
    invocation.command.paths

/-- The log entry of settings that were loaded. -/
def configuredEntry (settings : Settings) : Log.Entry :=
  ⟨.debug, "Configuration loaded", [("settings", .text settings.display)]⟩

/-- Carries out what the arguments ask for. -/
def Invocation.execute (around : Surroundings) (invocation : Invocation) : Outcome :=
  match Settings.load around invocation.configuration with
  | .error fault => .refuse (.settings fault)
  | .ok settings =>
    (invocation.command.execute around.look settings).after "" [configuredEntry settings]

end StackMachine.CommandLine
