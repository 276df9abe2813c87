import StackMachine.Instruction
import StackMachine.Json.Item
import StackMachine.Json.Value

/-!
# Programs as JSON documents

A program is written as a JSON list of instructions. Where it is read, an instruction is a record
with the keys `opcode` and `operand`, in any order and among any others, or a list of the opcode
and, optionally, the operand; the text is read from left to right, and the first fault counts. Where
a program is written, each instruction is a compact record: the opcode stands before the operand,
and the operand stands only where there is one.
-/

namespace StackMachine.Program

open Json

/-! ## Fields -/

/-- Reads an opcode. -/
def readOpcode (s : List Char) : Reading String :=
  match skipBlanks s with
  | [] => .error (.ended .inValue)
  | '"' :: rest =>
    match readString rest with
    | .error fault => .error fault
    | .ok (text, rest) => .ok (String.ofList text, rest)
  | s => .error (mismatch .string s)

/-- The operand that a number stands for. -/
def operandOf : Number → Except Json.Fault Int64
  | .integer value =>
    if -9223372036854775808 ≤ value ∧ value ≤ 9223372036854775807 then .ok (Int64.ofInt value)
    else .error (.data (.tooLarge value))
  | .floating value => .error (.data (.invalidType (.floating value) .operand))

/-- Reads an operand, which may be absent in the form of a `null`. -/
def readOperand (s : List Char) : Reading (Option Int64) :=
  match skipBlanks s with
  | [] => .error (.ended .inValue)
  | 'n' :: rest =>
    match readWord ['u', 'l', 'l'] rest with
    | .error fault => .error fault
    | .ok rest => .ok (none, rest)
  | c :: rest =>
    if c = '-' ∨ c.isDigit then
      match readNumber (c :: rest) with
      | .error fault => .error fault
      | .ok (number, rest) =>
        match operandOf number with
        | .error fault => .error fault
        | .ok operand => .ok (some operand, rest)
    else .error (mismatch .operand (c :: rest))

/-! ## Records -/

/-- The fields of a record that are read so far. -/
structure Fields where
  opcode : Option String := none
  /-- The operand, of which a `null` counts as read. -/
  operand : Option (Option Int64) := none

/-- The record that the fields make. -/
def Fields.record (fields : Fields) : Except Json.Fault Instruction.Record :=
  match fields.opcode with
  | none => .error (.data (.missingField "opcode"))
  | some opcode => .ok ⟨opcode, fields.operand.join⟩

/-- Reads the value of the member `opcode`, which may stand once. -/
def readOpcodeField (fields : Fields) (s : List Char) : Reading Fields :=
  if fields.opcode.isSome then .error (.data (.duplicateField "opcode"))
  else
    match readColon s with
    | .error fault => .error fault
    | .ok s =>
      match readOpcode s with
      | .error fault => .error fault
      | .ok (opcode, rest) => .ok ({ fields with opcode := some opcode }, rest)

/-- Reads the value of the member `operand`, which may stand once. -/
def readOperandField (fields : Fields) (s : List Char) : Reading Fields :=
  if fields.operand.isSome then .error (.data (.duplicateField "operand"))
  else
    match readColon s with
    | .error fault => .error fault
    | .ok s =>
      match readOperand s with
      | .error fault => .error fault
      | .ok (operand, rest) => .ok ({ fields with operand := some operand }, rest)

/-- Passes over the value of a member whose key is no field. -/
def skipField (fields : Fields) (s : List Char) : Reading Fields :=
  match readColon s with
  | .error fault => .error fault
  | .ok s =>
    match skipValue s with
    | .error fault => .error fault
    | .ok rest => .ok (fields, rest)

/-- Reads the colon and the value of a member whose key is read. -/
def readField (fields : Fields) (key : String) (s : List Char) : Reading Fields :=
  if key = "opcode" then readOpcodeField fields s
  else if key = "operand" then readOperandField fields s
  else skipField fields s

/-- Reads a member of a record, from its key on. -/
def readMember (fields : Fields) (s : List Char) : Reading Fields :=
  match readKey s with
  | .error fault => .error fault
  | .ok (key, rest) => readField fields key rest

/-- An opcode is read from the front. -/
theorem length_lt_of_readOpcode {s rest : List Char} {opcode : String}
    (h : readOpcode s = .ok (opcode, rest)) : rest.length < s.length := by
  have shrinks := length_skipBlanks_le s
  unfold readOpcode at h
  split at h
  · simp at h
  · rename_i blanks
    rw [blanks, List.length_cons] at shrinks
    split at h
    · simp at h
    · rename_i read
      have := length_lt_of_readString read
      simp only [Except.ok.injEq, Prod.mk.injEq] at h
      rw [← h.2]
      omega
  · simp at h

/-- An operand is read from the front. -/
theorem length_lt_of_readOperand {s rest : List Char} {operand : Option Int64}
    (h : readOperand s = .ok (operand, rest)) : rest.length < s.length := by
  have shrinks := length_skipBlanks_le s
  unfold readOperand at h
  split at h
  · simp at h
  · rename_i blanks
    rw [blanks, List.length_cons] at shrinks
    split at h
    · simp at h
    · rename_i read
      have := length_le_of_readWord read
      simp only [Except.ok.injEq, Prod.mk.injEq] at h
      rw [← h.2]
      omega
  · rename_i blanks
    rw [blanks] at shrinks
    split at h
    · split at h
      · simp at h
      · rename_i read
        have := length_lt_of_readNumber read
        split at h
        · simp at h
        · simp only [Except.ok.injEq, Prod.mk.injEq] at h
          rw [← h.2]
          omega
    · simp at h

/-- The value of a member is read from the front. -/
theorem length_lt_of_readField {fields fields' : Fields} {key : String} {s rest : List Char}
    (h : readField fields key s = .ok (fields', rest)) : rest.length < s.length := by
  unfold readField at h
  split at h
  · unfold readOpcodeField at h
    split at h
    · simp at h
    · split at h
      · simp at h
      · rename_i colon
        have := length_lt_of_readColon colon
        split at h
        · simp at h
        · rename_i read
          have := length_lt_of_readOpcode read
          simp only [Except.ok.injEq, Prod.mk.injEq] at h
          rw [← h.2]
          omega
  · split at h
    · unfold readOperandField at h
      split at h
      · simp at h
      · split at h
        · simp at h
        · rename_i colon
          have := length_lt_of_readColon colon
          split at h
          · simp at h
          · rename_i read
            have := length_lt_of_readOperand read
            simp only [Except.ok.injEq, Prod.mk.injEq] at h
            rw [← h.2]
            omega
    · unfold skipField at h
      split at h
      · simp at h
      · rename_i colon
        have := length_lt_of_readColon colon
        split at h
        · simp at h
        · rename_i skipped
          have := length_lt_of_skipValue skipped
          simp only [Except.ok.injEq, Prod.mk.injEq] at h
          rw [← h.2]
          omega

/-- A member is read from the front. -/
theorem length_lt_of_readMember {fields fields' : Fields} {s rest : List Char}
    (h : readMember fields s = .ok (fields', rest)) : rest.length < s.length := by
  unfold readMember at h
  split at h
  · simp at h
  · rename_i read
    have := length_lt_of_readKey read
    have := length_lt_of_readField h
    omega

/-- Reads the members of a record up to its end. -/
def readMembers (fields : Fields) (first : Bool) (s : List Char) : Reading Instruction.Record :=
  match _start : startItem .object first s with
  | .error fault => .error fault
  | .ok (.close rest) => fields.record.map (·, rest)
  | .ok (.item member) =>
    match _read : readMember fields member with
    | .error fault => .error fault
    | .ok (fields, rest) => readMembers fields false rest
termination_by s.length
decreasing_by
  have := length_le_of_startItem _start
  have := length_lt_of_readMember _read
  omega

/-- Reads the end of an instruction that is written as a list. -/
def readListEnd (s : List Char) : Except Json.Fault (List Char) :=
  match skipBlanks s with
  | [] => .error (.ended .inList)
  | ']' :: rest => .ok rest
  | ',' :: rest =>
    match skipBlanks rest with
    | ']' :: _ => .error (.grammar .trailingComma)
    | _ => .error (.grammar .trailingCharacters)
  | _ => .error (.grammar .trailingCharacters)

/-- Reads an instruction that is written as a list, after the opening bracket. -/
def readPair (s : List Char) : Reading Instruction.Record :=
  match startItem .list true s with
  | .error fault => .error fault
  | .ok (.close _) => .error (.data .emptyInstruction)
  | .ok (.item s) =>
    match readOpcode s with
    | .error fault => .error fault
    | .ok (opcode, s) =>
      match startItem .list false s with
      | .error fault => .error fault
      | .ok (.close rest) => .ok (⟨opcode, none⟩, rest)
      | .ok (.item s) =>
        match readOperand s with
        | .error fault => .error fault
        | .ok (operand, s) => (readListEnd s).map (⟨opcode, operand⟩, ·)

/-- Reads a record in either form. -/
def readRecord (s : List Char) : Reading Instruction.Record :=
  match skipBlanks s with
  | [] => .error (.ended .inValue)
  | '[' :: rest => readPair rest
  | '{' :: rest => readMembers {} true rest
  | s => .error (mismatch .instruction s)

/-! ## Instructions and programs -/

/-- Reads an instruction. A record that is no instruction is refused when all of it is read. -/
def readInstruction (s : List Char) : Reading Instruction :=
  match readRecord s with
  | .error fault => .error fault
  | .ok (record, rest) =>
    match Instruction.ofRecord record with
    | .error fault => .error (.data (.refused fault.message))
    | .ok instruction => .ok (instruction, rest)

/-- The members of a record are read from the front. -/
theorem length_lt_of_readMembers {fields : Fields} {first : Bool} {s rest : List Char}
    {record : Instruction.Record} (h : readMembers fields first s = .ok (record, rest)) :
    rest.length < s.length := by
  fun_induction readMembers fields first s with
  | case1 => simp at h
  | case2 fields first s after start =>
    have := length_lt_of_startItem_close start
    cases made : fields.record with
    | error fault => simp [made, Except.map] at h
    | ok record =>
      simp only [made, Except.map, Except.ok.injEq, Prod.mk.injEq] at h
      rwa [← h.2]
  | case3 => simp at h
  | case4 fields first s member start fields' after read ih =>
    have := length_le_of_startItem start
    have := length_lt_of_readMember read
    have := ih h
    omega

/-- An instruction in the form of a list is read from the front. -/
theorem length_lt_of_readPair {s rest : List Char} {record : Instruction.Record}
    (h : readPair s = .ok (record, rest)) : rest.length < s.length := by
  unfold readPair at h
  split at h
  · simp at h
  · simp at h
  · rename_i item
    have := length_le_of_startItem item
    split at h
    · simp at h
    · rename_i opcode
      have := length_lt_of_readOpcode opcode
      split at h
      · simp at h
      · rename_i close
        have := length_lt_of_startItem_close close
        simp only [Except.ok.injEq, Prod.mk.injEq] at h
        rw [← h.2]
        omega
      · rename_i item
        have := length_le_of_startItem item
        split at h
        · simp at h
        · rename_i s operand
          have := length_lt_of_readOperand operand
          have shrinks := length_skipBlanks_le s
          unfold readListEnd at h
          split at h
          · simp [Except.map] at h
          · rename_i blanks
            rw [blanks, List.length_cons] at shrinks
            simp only [Except.map, Except.ok.injEq, Prod.mk.injEq] at h
            rw [← h.2]
            omega
          · split at h <;> simp [Except.map] at h
          · simp [Except.map] at h

/-- An instruction is read from the front. -/
theorem length_lt_of_readInstruction {s rest : List Char} {instruction : Instruction}
    (h : readInstruction s = .ok (instruction, rest)) : rest.length < s.length := by
  have shrinks := length_skipBlanks_le s
  unfold readInstruction at h
  split at h
  · simp at h
  · rename_i record after read
    split at h
    · simp at h
    · simp only [Except.ok.injEq, Prod.mk.injEq] at h
      rw [← h.2]
      unfold readRecord at read
      split at read
      · simp at read
      · rename_i blanks
        rw [blanks, List.length_cons] at shrinks
        have := length_lt_of_readPair read
        omega
      · rename_i blanks
        rw [blanks, List.length_cons] at shrinks
        have := length_lt_of_readMembers read
        omega
      · simp at read

/-- Reads the instructions of a program up to its end. -/
def readInstructions (first : Bool) (s : List Char) : Reading Program :=
  match _start : startItem .list first s with
  | .error fault => .error fault
  | .ok (.close rest) => .ok ([], rest)
  | .ok (.item element) =>
    match _read : readInstruction element with
    | .error fault => .error fault
    | .ok (instruction, rest) =>
      (readInstructions false rest).map fun (program, rest) => (instruction :: program, rest)
termination_by s.length
decreasing_by
  have := length_le_of_startItem _start
  have := length_lt_of_readInstruction _read
  omega

/-- Reads a program. -/
def readProgram (s : List Char) : Reading Program :=
  match skipBlanks s with
  | [] => .error (.ended .inValue)
  | '[' :: rest => readInstructions true rest
  | s => .error (mismatch .program s)

/-- The value of a text that holds one value and nothing else. -/
def whole {α : Type} (read : List Char → Reading α) (source : String) : Except Json.Fault α :=
  match read source.toList with
  | .error fault => .error fault
  | .ok (value, rest) => (expectEnd rest).map fun () => value

/-- The program that a text holds. -/
def decode (source : String) : Except Json.Fault Program :=
  whole readProgram source

/-- The instruction that a text holds. -/
def decodeInstruction (source : String) : Except Json.Fault Instruction :=
  whole readInstruction source

/-- The message of a text that holds no program. -/
def faultMessage (fault : Json.Fault) : String :=
  "Invalid program JSON: " ++ fault.message

/-! ## Writing -/

/-- The JSON value of a record. -/
def recordValue (record : Instruction.Record) : Json.Value :=
  .object (("opcode", .string record.opcode) ::
    match record.operand with
    | some operand => [("operand", .integer operand.toInt)]
    | none => [])

/-- The JSON value of a program. -/
def value (program : Program) : Json.Value :=
  .list (program.map fun instruction => recordValue instruction.toRecord)

/-- The text of a program. -/
def encode (program : Program) : String :=
  (value program).render

end StackMachine.Program
