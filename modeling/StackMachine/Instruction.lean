/-!
# Instructions

The nine instructions of the machine, their opcodes, the flat records (an opcode with an optional
operand) in which programs are exchanged, and the ways in which an instruction can fail.

Eight opcodes are recognised. Every other opcode is kept as an `unknown` instruction: a program
that holds one can be read, written and listed, and only the machine refuses to execute it.
-/

namespace StackMachine

/-- One instruction of a program. -/
inductive Instruction where
  /-- Puts the operand on top of the stack. -/
  | push (operand : Int64)
  /-- Removes the top value. -/
  | pop
  /-- Replaces the two top values by their sum. -/
  | add
  /-- Replaces the two top values by their difference, the top one being subtracted. -/
  | sub
  /-- Replaces the two top values by their product. -/
  | mul
  /-- Replaces the two top values by their quotient, rounded down, the top one being the divisor. -/
  | div
  /-- Appends the top value to the output log and leaves it on the stack. -/
  | print
  /-- Ends the run. -/
  | halt
  /-- Stands for an opcode outside the instruction set. -/
  | unknown (opcode : String)
  deriving DecidableEq, Repr

namespace Instruction

/-- The opcode under which an instruction is written. -/
def opcode : Instruction → String
  | push _ => "PUSH"
  | pop => "POP"
  | add => "ADD"
  | sub => "SUB"
  | mul => "MUL"
  | div => "DIV"
  | print => "PRINT"
  | halt => "HALT"
  | unknown opcode => opcode

/-- The operand, which `push` alone has. -/
def operand : Instruction → Option Int64
  | push operand => some operand
  | _ => none

/-- The text shown for an instruction: its opcode, then a blank and the operand if there is one. -/
def display (instruction : Instruction) : String :=
  match instruction.operand with
  | some operand => instruction.opcode ++ " " ++ toString operand.toInt
  | none => instruction.opcode

/-- The opcode of an instruction outside the instruction set. -/
def unknownOpcode? : Instruction → Option String
  | unknown opcode => some opcode
  | _ => none

/-! ## Records -/

/-- The flat form of an instruction. -/
structure Record where
  opcode : String
  operand : Option Int64 := none
  deriving DecidableEq, Repr

/-- The reasons for which a record is no instruction. -/
inductive RecordFault where
  /-- A `PUSH` has nothing to push. -/
  | missingOperand
  deriving DecidableEq, Repr

/-- The text of a record's fault. -/
def RecordFault.message : RecordFault → String
  | missingOperand => "PUSH requires an integer operand"

/-- Reads a record. Only `PUSH` looks at the operand; elsewhere it is dropped. -/
def ofRecord (record : Record) : Except RecordFault Instruction :=
  match record.opcode with
  | "PUSH" =>
    match record.operand with
    | some operand => .ok (push operand)
    | none => .error .missingOperand
  | "POP" => .ok pop
  | "ADD" => .ok add
  | "SUB" => .ok sub
  | "MUL" => .ok mul
  | "DIV" => .ok div
  | "PRINT" => .ok print
  | "HALT" => .ok halt
  | opcode => .ok (unknown opcode)

/-- The record of an instruction. -/
def toRecord (instruction : Instruction) : Record :=
  ⟨instruction.opcode, instruction.operand⟩

end Instruction

/-- A program is the list of its instructions, numbered from zero. -/
abbrev Program := List Instruction

/-! ## Faults

Each fault has a stable code for programs that read reports and a message for people. -/

/-- Why an instruction failed. -/
inductive Fault where
  /-- The instruction needs more values than the stack holds. -/
  | stackUnderflow
  /-- The divisor is zero. -/
  | divisionByZero
  /-- The opcode is outside the instruction set. -/
  | unknownOpcode (opcode : String)
  /-- The exact result does not fit in 64 bits. -/
  | integerOverflow
  deriving DecidableEq, Repr

namespace Fault

/-- The stable code of a fault. -/
def code : Fault → String
  | stackUnderflow => "STACK_UNDERFLOW"
  | divisionByZero => "DIVISION_BY_ZERO"
  | unknownOpcode _ => "UNKNOWN_OPCODE"
  | integerOverflow => "INTEGER_OVERFLOW"

/-- The message of a fault. -/
def message : Fault → String
  | stackUnderflow => "Stack underflow"
  | divisionByZero => "Division by zero"
  | unknownOpcode opcode => "Unknown opcode: " ++ opcode
  | integerOverflow => "Integer overflow"

end Fault

end StackMachine
