import StackMachine.Machine.Run
import StackMachine.Machine.StatusName
import StackMachine.Program.Document

/-!
# Reports

Summaries for programs that read them, as one line of JSON: what a run left behind, and what a
program file holds.
-/

namespace StackMachine

/-- The summary of a run. -/
structure RunReport where
  /-- The name of the program, if it has one. -/
  name : Option String
  /-- The output log, the oldest value first. -/
  output : List Int64
  /-- The operands that are left, the bottom of the stack first. -/
  stack : List Int64
  status : Status
  /-- The fault that ended the run, if one did. -/
  fault : Option Fault
  deriving DecidableEq, Repr

namespace RunReport

/-- The report of an execution. -/
def ofTrace {α : Type} (name : Option String) (trace : Machine.Trace α) : RunReport where
  name := name
  output := trace.machine.output
  stack := trace.machine.operands
  status := trace.machine.status
  fault := match trace.result with
    | .ok _ => none
    | .error fault => some fault

/-- The JSON value of a fault. -/
def faultValue (fault : Fault) : Json.Value :=
  .object [("code", .string fault.code), ("message", .string fault.message)]

/-- The JSON value of a report. The name and the fault stand only where there is one. -/
def value (report : RunReport) : Json.Value :=
  .object <|
    (report.name.map fun name => ("name", Json.Value.string name)).toList ++
      [("output", .integers report.output), ("stack", .integers report.stack),
        ("status", .string report.status.name)] ++
      (report.fault.map fun fault => ("error", faultValue fault)).toList

/-- The text of a report. -/
def render (report : RunReport) : String :=
  report.value.render

end RunReport

/-- The summary of a program file. -/
structure CheckReport where
  /-- The name of the file. -/
  file : String
  /-- How many instructions the program has. -/
  instructions : Nat
  /-- The opcodes outside the instruction set, in order and with repetitions. -/
  unknownOpcodes : List String
  deriving DecidableEq, Repr

namespace CheckReport

/-- The report of a program. -/
def ofProgram (file : String) (program : Program) : CheckReport where
  file := file
  instructions := program.length
  unknownOpcodes := program.filterMap Instruction.unknownOpcode?

/-- The JSON value of a report. -/
def value (report : CheckReport) : Json.Value :=
  .object [("file", .string report.file), ("instructions", .integer report.instructions),
    ("unknown_opcodes", .list (report.unknownOpcodes.map .string))]

/-- The text of a report. -/
def render (report : CheckReport) : String :=
  report.value.render

end CheckReport

end StackMachine
