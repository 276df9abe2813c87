import StackMachine.Program.Document
import StackMachine.Proofs.Json.Written
import StackMachine.Proofs.Program.Instructions

/-!
# Programs that are written and read

Reading what is written for a program gives the program, with one change and one exception: an
unknown opcode that is a recognised one after all comes back as the instruction of that opcode, and
the opcode `PUSH` among the unknown ones is refused, since it is written without an operand.
-/

namespace StackMachine.Program

open Json

/-! ## Records -/

/-- The members that are written for a record. -/
def membersOf (record : Instruction.Record) : List (String × Tree) :=
  ("opcode", .string (unitsOf record.opcode.toList)) ::
    match record.operand with
    | some operand => [("operand", .number (integerLiteral operand.toInt))]
    | none => []

theorem renders_recordValue (record : Instruction.Record) :
    Renders (objectOf (membersOf record)) (recordValue record).write := by
  obtain ⟨opcode, operand⟩ := record
  have hopcode : Renders (.string (unitsOf opcode.toList)) (Value.string opcode).write := by
    rw [Value.write]
    exact renders_writeString opcode
  cases operand with
  | none =>
    exact @renders_object (Value × Tree) Prod.fst Prod.snd
      [("opcode", .string opcode, .string (unitsOf opcode.toList))] (by simpa using hopcode)
  | some operand =>
    have hoperand : Renders (.number (integerLiteral operand.toInt))
        (Value.integer operand.toInt).write := by
      rw [Value.integer, Value.write]
      exact renders_writeInteger operand.toInt
    exact @renders_object (Value × Tree) Prod.fst Prod.snd
      [("opcode", .string opcode, .string (unitsOf opcode.toList)),
        ("operand", .integer operand.toInt, .number (integerLiteral operand.toInt))]
      (by simpa using ⟨hopcode, hoperand⟩)

theorem describes_membersOf (record : Instruction.Record) :
    Describes (valuesOf "opcode" (membersOf record)) (valuesOf "operand" (membersOf record))
      record := by
  obtain ⟨opcode, operand⟩ := record
  cases operand with
  | none => exact Describes.alone rfl
  | some operand => exact Describes.both rfl (.integer (isInteger_integerLiteral operand.toInt))

/-- What is written for a record is read as the record. -/
theorem readRecord_recordValue (record : Instruction.Record) (rest : List Char) :
    readRecord ((recordValue record).write ++ rest) = .ok (record, rest) :=
  (finds_readRecord_object (renders_recordValue record) blanks_nil rest).eq_ok
    (describes_membersOf record)

/-! ## Instructions -/

/-- The instruction as which an instruction comes back: an unknown opcode may be a recognised one
without operand. -/
def recognised : Instruction → Instruction
  | .unknown opcode => (bareInstructions.lookup opcode).getD (.unknown opcode)
  | instruction => instruction

theorem lookup_bareInstructions {opcode : String} {instruction : Instruction}
    (h : (opcode, instruction) ∈ bareInstructions) :
    bareInstructions.lookup opcode = some instruction := by
  have hall : ∀ p ∈ bareInstructions, bareInstructions.lookup p.1 = some p.2 := by decide
  exact hall _ h

theorem lookup_bareInstructions_eq_none {opcode : String}
    (h : opcode ∉ bareInstructions.map Prod.fst) : bareInstructions.lookup opcode = none := by
  rw [List.lookup_eq_none_iff]
  intro p hp
  rw [bne_iff_ne]
  rintro rfl
  exact h (List.mem_map_of_mem hp)

theorem ofRecord_toRecord {instruction : Instruction} (h : instruction ≠ .unknown "PUSH") :
    Instruction.ofRecord instruction.toRecord = .ok (recognised instruction) := by
  cases instruction with
  | unknown opcode =>
    have hpush : opcode ≠ "PUSH" := by
      rintro rfl
      exact h rfl
    show Instruction.ofRecord ⟨opcode, none⟩ = _
    by_cases hbare : opcode ∈ bareInstructions.map Prod.fst
    · obtain ⟨⟨opcode, instruction⟩, hmem, rfl⟩ := List.mem_map.mp hbare
      rw [ofRecord_bare hmem, recognised, lookup_bareInstructions hmem, Option.getD_some]
    · rw [ofRecord_unknown hpush hbare, recognised, lookup_bareInstructions_eq_none hbare,
        Option.getD_none]
  | _ => rfl

/-- The fault of a `PUSH` without operand. -/
def refused : Json.Fault := .data (.refused "PUSH requires an integer operand")

/-- The characters that are written for an instruction. -/
def written (instruction : Instruction) : List Char :=
  (recordValue instruction.toRecord).write

theorem readInstruction_written {instruction : Instruction} (h : instruction ≠ .unknown "PUSH")
    (rest : List Char) :
    readInstruction (written instruction ++ rest) = .ok (recognised instruction, rest) := by
  rw [readInstruction, written, readRecord_recordValue]
  simp only [ofRecord_toRecord h]

theorem readInstruction_written_push (rest : List Char) :
    readInstruction (written (.unknown "PUSH") ++ rest) = .error refused := by
  rw [readInstruction, written, readRecord_recordValue]
  rfl

/-- What is written for an instruction starts with its bracket. -/
theorem skipBlanks_written (instruction : Instruction) (rest : List Char) :
    skipBlanks (written instruction ++ rest) = written instruction ++ rest ∧
      ∃ c s, skipBlanks (written instruction ++ rest) = c :: s ∧ c ≠ Bracket.list.closing := by
  have hrenders := renders_recordValue instruction.toRecord
  have hskip := hrenders.skipBlanks_append blanks_nil rest
  obtain ⟨c, s, htext, -, hclosing⟩ := hrenders.start
  refine ⟨hskip, c, s ++ rest, ?_, hclosing .list⟩
  rw [written]
  exact hskip.trans (by rw [htext, List.cons_append])

/-! ## Programs -/

/-- What reading gives for what is written for a program. -/
def reread (program : Program) (rest : List Char) : Reading Program :=
  if .unknown "PUSH" ∈ program then .error refused else .ok (program.map recognised, rest)

theorem readInstructions_of_close {first : Bool} {s rest : List Char}
    (h : startItem .list first s = .ok (.close rest)) :
    readInstructions first s = .ok ([], rest) := by
  rw [readInstructions]
  split <;> simp_all

theorem readInstructions_of_item {first : Bool} {s element : List Char}
    (h : startItem .list first s = .ok (.item element)) :
    readInstructions first s = (readInstruction element).bind fun p =>
      (readInstructions false p.2).map fun q => (p.1 :: q.1, q.2) := by
  rw [readInstructions]
  split
  · simp_all
  · simp_all
  · rename_i element' heq
    obtain rfl : element = element' := by simp_all
    split <;> simp_all [Except.bind]

/-- An instruction in front of a program that is read again. -/
theorem readInstructions_cons {instruction : Instruction} {program : Program} {first : Bool}
    {s after rest : List Char}
    (hstart : startItem .list first s = .ok (.item (written instruction ++ after)))
    (h : readInstructions false after = reread program rest) :
    readInstructions first s = reread (instruction :: program) rest := by
  rw [readInstructions_of_item hstart]
  -- the first refused instruction ends the reading, whatever follows it
  by_cases hpush : instruction = .unknown "PUSH"
  · rw [hpush, readInstruction_written_push, reread, if_pos List.mem_cons_self]
    rfl
  · rw [readInstruction_written hpush]
    show (readInstructions false after).map _ = _
    have hcons : .unknown "PUSH" ∈ instruction :: program ↔ .unknown "PUSH" ∈ program := by
      rw [List.mem_cons, or_iff_right (Ne.symm hpush)]
    rw [h, reread, reread]
    by_cases hmem : .unknown "PUSH" ∈ program
    · rw [if_pos hmem, if_pos (hcons.mpr hmem)]
      rfl
    · rw [if_neg hmem, if_neg fun h => hmem (hcons.mp h)]
      rfl

/-- The instructions that are left are read one after the other. -/
theorem readInstructions_written (program : Program) (rest : List Char) :
    readInstructions false (Bracket.list.remainder (program.map written) rest) =
      reread program rest := by
  induction program with
  | nil => exact readInstructions_of_close (startItem_of_closing blanks_nil false rest)
  | cons instruction program ih =>
    have hstart := skipBlanks_written instruction
      (Bracket.list.remainder (program.map written) rest)
    rw [List.map_cons, remainder_cons]
    refine readInstructions_cons ?_ ih
    have hnext := startItem_of_next blanks_nil hstart.2
    rwa [hstart.1] at hnext

theorem toList_encode (program : Program) :
    (encode program).toList =
      '[' :: (Value.writeItems (program.map fun i => recordValue i.toRecord) ++ [']']) := by
  rw [encode, Value.render, String.toList_ofList, value, Value.write, List.cons_append]

/-- Reading what is written for a program. -/
theorem readProgram_written (program : Program) :
    readProgram (encode program).toList = reread program [] := by
  rw [toList_encode, readProgram, skipBlanks_cons rfl]
  show readInstructions true _ = _
  cases program with
  | nil => exact readInstructions_of_close (startItem_of_closing blanks_nil true [])
  | cons instruction program =>
    have hstart := skipBlanks_written instruction
      (Bracket.list.remainder (program.map written) [])
    rw [List.map_cons, writeItems_cons, List.map_map, List.append_assoc]
    refine readInstructions_cons ?_ (readInstructions_written program [])
    have hfirst := startItem_of_first hstart.2
    rwa [hstart.1] at hfirst

/-- An instruction comes back unchanged unless it is unknown and its opcode is recognised. -/
theorem recognised_eq_self_iff {instruction : Instruction} :
    recognised instruction = instruction ↔
      ∀ opcode ∈ bareInstructions.map Prod.fst, instruction ≠ .unknown opcode := by
  cases instruction with
  | unknown opcode =>
    by_cases hbare : opcode ∈ bareInstructions.map Prod.fst
    · refine iff_of_false ?_ fun h => h opcode hbare rfl
      obtain ⟨⟨opcode, instruction⟩, hmem, rfl⟩ := List.mem_map.mp hbare
      have hall : ∀ p ∈ bareInstructions, p.2 ≠ .unknown p.1 := by decide
      rw [recognised, lookup_bareInstructions hmem, Option.getD_some]
      exact hall _ hmem
    · refine iff_of_true ?_ ?_
      · rw [recognised, lookup_bareInstructions_eq_none hbare, Option.getD_none]
      · rintro opcode' h heq
        obtain rfl := Instruction.unknown.inj heq
        exact hbare h
  | _ => simp [recognised]

/-- Reading what is written for a program gives the program up to recognised opcodes, and fails
exactly if an unknown `PUSH` is among its instructions. Nothing changes exactly if no unknown opcode
is a recognised one. -/
theorem decode_encode (program : Program) :
    decode (encode program) =
      (if .unknown "PUSH" ∈ program then
        .error (.data (.refused "PUSH requires an integer operand"))
      else .ok (program.map recognised)) ∧
    (decode (encode program) = .ok program ↔
      ∀ opcode ∈ "PUSH" :: bareInstructions.map Prod.fst, .unknown opcode ∉ program) := by
  have hdecode : decode (encode program) =
      if .unknown "PUSH" ∈ program then .error refused else .ok (program.map recognised) := by
    rw [decode, whole, readProgram_written, reread]
    by_cases hpush : .unknown "PUSH" ∈ program
    · rw [if_pos hpush, if_pos hpush]
    · rw [if_neg hpush, if_neg hpush]
      rfl
  refine ⟨hdecode, ?_⟩
  rw [hdecode, List.forall_mem_cons]
  by_cases hpush : .unknown "PUSH" ∈ program
  · simp [hpush]
  · rw [if_neg hpush, Except.ok.injEq, and_iff_right hpush]
    have hmap : program.map recognised = program ↔
        ∀ instruction ∈ program, recognised instruction = instruction := by
      have hinj := List.map_inj_left (l := program) (f := recognised) (g := id)
      rwa [List.map_id] at hinj
    rw [hmap]
    constructor
    · intro h opcode hbare hmem
      exact recognised_eq_self_iff.mp (h _ hmem) opcode hbare rfl
    · intro h instruction hmem
      refine recognised_eq_self_iff.mpr fun opcode hbare heq => ?_
      rw [heq] at hmem
      exact h opcode hbare hmem

end StackMachine.Program
