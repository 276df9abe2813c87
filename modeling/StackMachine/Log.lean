import StackMachine.Instruction

/-!
# Log entries

What the library reports while it works: an entry has a level, a message and named fields. Most
entries tell the events of a run, which are kept as such; the others are defined where they arise.
-/

namespace StackMachine

/-! ## Entries -/

namespace Log

/-- How much an entry matters. -/
inductive Level where
  | debug
  | warn
  | error
  deriving DecidableEq, Repr

/-- The name of a level. -/
def Level.name : Level → String
  | debug => "DEBUG"
  | warn => "WARN"
  | error => "ERROR"

/-- The value of a field. -/
inductive Value where
  | number (n : Nat)
  | text (s : String)
  deriving DecidableEq, Repr

/-- One entry of the log. -/
structure Entry where
  level : Level
  message : String
  fields : List (String × Value)
  deriving DecidableEq, Repr

end Log

/-! ## Events of a run -/

namespace Machine

/-- One event of a run. -/
inductive Event where
  /-- A program of this many instructions is about to run. -/
  | executing (instructions : Nat)
  /-- An instruction is about to be applied, with this many values on the stack. -/
  | dispatching (counter : Nat) (instruction : Instruction) (depth : Nat)
  /-- The instruction at the counter failed. -/
  | failed (counter : Nat) (fault : Fault)
  /-- The program ended without a fault. -/
  | finished (steps outputs depth : Nat)
  deriving DecidableEq, Repr

/-- The log entry of an event. -/
def Event.entry : Event → Log.Entry
  | executing instructions =>
    ⟨.debug, "Executing program", [("instructions", .number instructions)]⟩
  | dispatching counter instruction depth =>
    ⟨.debug, "Dispatch",
      [("pc", .number counter), ("instruction", .text instruction.display),
        ("depth", .number depth)]⟩
  | failed counter fault =>
    ⟨.warn, "Execution failed: " ++ fault.message,
      [("pc", .number counter), ("code", .text fault.code)]⟩
  | finished steps outputs depth =>
    ⟨.debug, "Program finished",
      [("steps", .number steps), ("outputs", .number outputs), ("depth", .number depth)]⟩

end Machine

end StackMachine
