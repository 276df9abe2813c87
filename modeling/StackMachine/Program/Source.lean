import StackMachine.Files
import StackMachine.Log
import StackMachine.Program.Document

/-!
# Where programs come from

A program is read from a file, or is one of five small ones that show what the machine does.
-/

namespace StackMachine

/-! ## Program files -/

namespace Program

/-- Why there is no program in a file. -/
inductive LoadFault where
  /-- The file cannot be read. -/
  | unreadable (path : String) (fault : Files.FileFault)
  /-- The text of the file is no program. -/
  | undecodable (path : String) (fault : Json.Fault)
  deriving DecidableEq, Repr

/-- The message of a file without a program. -/
def LoadFault.message : LoadFault → String
  | unreadable path fault => "Failed to read program " ++ path ++ ": " ++ fault.message
  | undecodable path fault => "Failed to decode program " ++ path ++ ": " ++ faultMessage fault

/-- Reads the program in a file. -/
def load (look : String → Files.Lookup) (path : String) : Except LoadFault Program :=
  match look path with
  | .error fault => .error (.unreadable path fault)
  | .ok bytes =>
    match Files.text bytes with
    | .error fault => .error (.unreadable path fault)
    | .ok source =>
      match decode source with
      | .error fault => .error (.undecodable path fault)
      | .ok program => .ok program

/-- The log entry of a program that was read. -/
def loadedEntry (path : String) (program : Program) : Log.Entry :=
  ⟨.debug, "Loaded program", [("path", .text path), ("instructions", .number program.length)]⟩

end Program

/-! ## Demonstration programs -/

/-- A demonstration program. -/
structure Demo where
  /-- The short name by which it is chosen. -/
  name : String
  title : String
  program : Program
  deriving DecidableEq, Repr

namespace Demo

/-- The demonstration programs. -/
def all : List Demo :=
  [{ name := "add", title := "Simple arithmetic (2 + 3)",
     program := [.push 2, .push 3, .add, .print, .halt] },
   { name := "mixed", title := "Multiple operations ((5 + 3) * 2)",
     program := [.push 5, .push 3, .add, .push 2, .mul, .print, .halt] },
   { name := "divide", title := "Division (10 / 2)",
     program := [.push 10, .push 2, .div, .print, .halt] },
   { name := "subtract", title := "Subtraction (15 - 7)",
     program := [.push 15, .push 7, .sub, .print, .halt] },
   { name := "complex", title := "Complex expression ((10 + 5) * 3 - 20) / 5",
     program := [.push 10, .push 5, .add, .push 3, .mul, .push 20, .sub, .push 5, .div, .print,
       .halt] }]

/-- The demonstration program with a name. -/
def find? (name : String) : Option Demo :=
  all.find? fun demo => demo.name == name

end Demo

end StackMachine
