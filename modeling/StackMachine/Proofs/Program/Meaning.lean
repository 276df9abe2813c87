import StackMachine.Instruction
import StackMachine.Proofs.Json.Numbers
import StackMachine.Proofs.Json.Strings

/-!
# The meaning of instruction trees

Which syntax trees write an instruction, and which instruction they write. The values of the members
`opcode` and `operand` decide; that is said here with neither a reader nor an order of the members.
-/

namespace StackMachine.Program

open Json

/-! ## Names -/

/-- The instructions that an opcode names without an operand. -/
def bareInstructions : List (String × Instruction) :=
  [("POP", .pop), ("ADD", .add), ("SUB", .sub), ("MUL", .mul), ("DIV", .div), ("PRINT", .print),
    ("HALT", .halt)]

/-- The instruction that an opcode and an operand name. A `PUSH` without an operand names none. -/
inductive Names : String → Option Int64 → Instruction → Prop
  | push (operand : Int64) : Names "PUSH" (some operand) (.push operand)
  | bare {opcode : String} {instruction : Instruction} (operand : Option Int64)
      (h : (opcode, instruction) ∈ bareInstructions) : Names opcode operand instruction
  | unknown {opcode : String} (operand : Option Int64) (hpush : opcode ≠ "PUSH")
      (hbare : opcode ∉ bareInstructions.map Prod.fst) : Names opcode operand (.unknown opcode)

theorem ofRecord_bare {opcode : String} {instruction : Instruction}
    (h : (opcode, instruction) ∈ bareInstructions) (operand : Option Int64) :
    Instruction.ofRecord ⟨opcode, operand⟩ = .ok instruction := by
  have hall : ∀ p ∈ bareInstructions, Instruction.ofRecord ⟨p.1, operand⟩ = .ok p.2 := by
    intro p hp
    simp only [bareInstructions, List.mem_cons, List.not_mem_nil, or_false] at hp
    rcases hp with rfl | rfl | rfl | rfl | rfl | rfl | rfl <;> rfl
  exact hall _ h

theorem ofRecord_unknown {opcode : String} (hpush : opcode ≠ "PUSH")
    (hbare : opcode ∉ bareInstructions.map Prod.fst) (operand : Option Int64) :
    Instruction.ofRecord ⟨opcode, operand⟩ = .ok (.unknown opcode) := by
  simp only [bareInstructions, List.map_cons, List.map_nil, List.mem_cons, List.not_mem_nil,
    or_false, not_or] at hbare
  unfold Instruction.ofRecord
  split <;> simp_all

/-- A record is read as the instruction that it names. -/
theorem ofRecord_eq_ok_iff {record : Instruction.Record} {instruction : Instruction} :
    Instruction.ofRecord record = .ok instruction ↔
      Names record.opcode record.operand instruction := by
  obtain ⟨opcode, operand⟩ := record
  constructor
  · intro h
    by_cases hpush : opcode = "PUSH"
    · subst hpush
      cases operand with
      | none => simp [Instruction.ofRecord] at h
      | some operand =>
        obtain rfl : .push operand = instruction := Except.ok.inj h
        exact Names.push operand
    · by_cases hbare : opcode ∈ bareInstructions.map Prod.fst
      · obtain ⟨⟨opcode, instruction'⟩, hmem, rfl⟩ := List.mem_map.mp hbare
        rw [ofRecord_bare hmem, Except.ok.injEq] at h
        rw [← h]
        exact Names.bare operand hmem
      · rw [ofRecord_unknown hpush hbare, Except.ok.injEq] at h
        rw [← h]
        exact Names.unknown operand hpush hbare
  · intro h
    cases h with
    | push operand => rfl
    | bare operand h => exact ofRecord_bare h operand
    | unknown operand hpush hbare => exact ofRecord_unknown hpush hbare operand

/-! ## Fields -/

/-- The values of the members with a given key. -/
def valuesOf (key : String) (members : List (String × Tree)) : List Tree :=
  members.filterMap fun (name, value) => if name = key then some value else none

/-- Whether the key of a member is one of the two fields. -/
def isField (member : String × Tree) : Bool :=
  member.1 == "opcode" || member.1 == "operand"

theorem valuesOf_cons (key name : String) (value : Tree) (members : List (String × Tree)) :
    valuesOf key ((name, value) :: members) =
      if name = key then value :: valuesOf key members else valuesOf key members := by
  by_cases h : name = key
  · simp [valuesOf, h]
  · simp [valuesOf, h]

/-- Members that are no fields have no values of a field. -/
theorem valuesOf_filter {key : String} (h : key = "opcode" ∨ key = "operand")
    (members : List (String × Tree)) :
    valuesOf key (members.filter isField) = valuesOf key members := by
  induction members with
  | nil => rfl
  | cons member members ih =>
    obtain ⟨name, value⟩ := member
    rw [List.filter_cons, valuesOf_cons]
    by_cases hname : name = key
    · have hfield : isField (name, value) = true := by
        rcases h with rfl | rfl <;> simp [isField, hname]
      rw [if_pos hfield, valuesOf_cons, if_pos hname, if_pos hname, ih]
    · rw [if_neg hname]
      split
      · rw [valuesOf_cons, if_neg hname, ih]
      · exact ih

/-- Members with the same fields, in any order, have the same values of a field up to order. -/
theorem valuesOf_perm {key : String} (h : key = "opcode" ∨ key = "operand")
    {members members' : List (String × Tree)}
    (hperm : (members.filter isField).Perm (members'.filter isField)) :
    (valuesOf key members).Perm (valuesOf key members') := by
  rw [← valuesOf_filter h members, ← valuesOf_filter h members']
  exact hperm.filterMap _

/-- The opcode that a value writes. -/
def OpcodeTree (opcode : String) (value : Tree) : Prop :=
  value = .string (unitsOf opcode.toList)

theorem OpcodeTree.unique {opcode opcode' : String} {value : Tree} (h : OpcodeTree opcode value)
    (h' : OpcodeTree opcode' value) : opcode' = opcode := by
  rw [OpcodeTree] at h h'
  rw [h, Tree.string.injEq, unitsOf_inj, String.toList_inj] at h'
  exact h'.symm

/-- The operand that a value writes: none, or an integer that a word can hold. -/
inductive OperandTree : Option Int64 → Tree → Prop
  | null : OperandTree none .null
  | integer {literal : Literal} {operand : Int64} (h : literal.IsInteger operand.toInt) :
      OperandTree (some operand) (.number literal)

/-- The record that the values of the fields write: one opcode and at most one operand. -/
inductive Describes : List Tree → List Tree → Instruction.Record → Prop
  | alone {opcode : String} {value : Tree} (h : OpcodeTree opcode value) :
      Describes [value] [] ⟨opcode, none⟩
  | both {opcode : String} {operand : Option Int64} {value operandValue : Tree}
      (h : OpcodeTree opcode value) (hoperand : OperandTree operand operandValue) :
      Describes [value] [operandValue] ⟨opcode, operand⟩

/-- An opcode and what stands beside it describe a record. -/
theorem describes_iff {opcode : String} {value : Tree} (hvalue : OpcodeTree opcode value)
    {operands : List Tree} {record : Instruction.Record} :
    Describes [value] operands record ↔ (operands = [] ∧ record = ⟨opcode, none⟩) ∨
      ∃ item operand, operands = [item] ∧ OperandTree operand item ∧
        record = ⟨opcode, operand⟩ := by
  constructor
  · intro h
    cases h with
    | alone h => exact Or.inl ⟨rfl, by rw [hvalue.unique h]⟩
    | both h hoperand => exact Or.inr ⟨_, _, rfl, hoperand, by rw [hvalue.unique h]⟩
  · rintro (⟨rfl, rfl⟩ | ⟨item, operand, rfl, hoperand, rfl⟩)
    · exact Describes.alone hvalue
    · exact Describes.both hvalue hoperand

/-- The instruction that the values of the fields write. -/
def Denotes (opcodes operands : List Tree) (instruction : Instruction) : Prop :=
  ∃ record, Describes opcodes operands record ∧
    Names record.opcode record.operand instruction

/-- The order of the values makes no difference. -/
theorem Denotes.perm {opcodes opcodes' operands operands' : List Tree}
    {instruction : Instruction} (h : Denotes opcodes operands instruction)
    (hopcodes : opcodes.Perm opcodes') (hoperands : operands.Perm operands') :
    Denotes opcodes' operands' instruction := by
  obtain ⟨record, hrecord, hnames⟩ := h
  refine ⟨record, ?_, hnames⟩
  cases hrecord with
  | alone hopcode =>
    rw [← List.singleton_perm.mp hopcodes, List.nil_perm.mp hoperands]
    exact Describes.alone hopcode
  | both hopcode hoperand =>
    rw [← List.singleton_perm.mp hopcodes, ← List.singleton_perm.mp hoperands]
    exact Describes.both hopcode hoperand

/-- The object with the given members, whose keys are texts. -/
def objectOf (members : List (String × Tree)) : Tree :=
  .object (members.map fun (name, value) => (unitsOf name.toList, value))

end StackMachine.Program
