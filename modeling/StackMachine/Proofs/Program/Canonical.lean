import StackMachine.Machine.Run
import StackMachine.Program.Source
import StackMachine.Proofs.Program.RoundTrip

/-!
# Programs that are read

A program that is read from a text has no unknown instruction whose opcode is recognised, however
the opcode was spelled there: the opcode is compared when the escapes of its characters are gone.
So what is written for such a program is read as the same program. Main statement: the programs that
some text holds are those, and writing and reading one of them changes nothing (`decode_canonical`).
-/

namespace StackMachine.Program

open Json

/-- The opcodes of the instruction set. -/
def recognisedOpcodes : List String :=
  ["PUSH", "POP", "ADD", "SUB", "MUL", "DIV", "PRINT", "HALT"]

/-- A program whose unknown instructions are unknown. -/
def Canonical (program : Program) : Prop :=
  ∀ opcode ∈ recognisedOpcodes, Instruction.unknown opcode ∉ program

instance (program : Program) : Decidable (Canonical program) :=
  inferInstanceAs (Decidable (∀ opcode ∈ recognisedOpcodes, Instruction.unknown opcode ∉ program))

theorem canonical_nil : Canonical [] := by
  intro opcode _ hmem
  simp at hmem

theorem canonical_cons {instruction : Instruction} {program : Program} :
    Canonical (instruction :: program) ↔
      (∀ opcode ∈ recognisedOpcodes, instruction ≠ .unknown opcode) ∧ Canonical program := by
  simp only [Canonical, List.mem_cons, not_or, eq_comm, forall_and]

/-! ## What is read -/

/-- An opcode that is recognised names no unknown instruction. -/
theorem Names.ne_unknown {opcode : String} {operand : Option Int64} {instruction : Instruction}
    (h : Names opcode operand instruction) {other : String} (hother : other ∈ recognisedOpcodes) :
    instruction ≠ .unknown other := by
  cases h with
  | push operand => simp
  | bare operand h =>
    have hall : ∀ p ∈ bareInstructions, p.2.unknownOpcode? = none := by decide
    rintro rfl
    simpa [Instruction.unknownOpcode?] using hall _ h
  | unknown operand hpush hbare =>
    rintro heq
    obtain rfl := Instruction.unknown.inj heq
    rcases List.mem_cons.mp hother with rfl | hother
    · exact hpush rfl
    · exact hbare hother

theorem ne_unknown_of_readInstruction {s rest : List Char} {instruction : Instruction}
    (h : readInstruction s = .ok (instruction, rest)) {opcode : String}
    (hopcode : opcode ∈ recognisedOpcodes) : instruction ≠ .unknown opcode := by
  unfold readInstruction at h
  split at h
  · simp at h
  · rename_i record after hread
    split at h
    · simp at h
    · rename_i made hmade
      rw [Except.ok.injEq, Prod.mk.injEq] at h
      rw [← h.1]
      exact (ofRecord_eq_ok_iff.mp hmade).ne_unknown hopcode

theorem canonical_of_readInstructions {first : Bool} {s rest : List Char} {program : Program}
    (h : readInstructions first s = .ok (program, rest)) : Canonical program := by
  fun_induction readInstructions first s generalizing program with
  | case1 => simp at h
  | case2 first s after hstart =>
    rw [Except.ok.injEq, Prod.mk.injEq] at h
    rw [← h.1]
    exact canonical_nil
  | case3 => simp at h
  | case4 first s element hstart instruction after hread ih =>
    obtain ⟨others, hothers⟩ := eq_ok_of_map_eq_ok h
    rw [hothers, Except.map, Except.ok.injEq, Prod.mk.injEq] at h
    rw [← h.1]
    exact canonical_cons.mpr
      ⟨fun opcode hopcode => ne_unknown_of_readInstruction hread hopcode, ih hothers⟩

theorem canonical_of_decode {source : String} {program : Program}
    (h : decode source = .ok program) : Canonical program := by
  obtain ⟨rest, hread, -⟩ := whole_eq_ok_iff_exists.mp h
  unfold readProgram at hread
  split at hread
  · simp at hread
  · exact canonical_of_readInstructions hread
  · simp at hread

/-! ## What is written -/

/-- What is written for a canonical program is read as the program. -/
theorem Canonical.decode_encode_eq_ok {program : Program} (h : Canonical program) :
    decode (encode program) = .ok program := by
  have hpush : .unknown "PUSH" ∉ program := h "PUSH" List.mem_cons_self
  have hsame : program.map recognised = program := by
    have hinj := List.map_inj_left (l := program) (f := recognised) (g := id)
    rw [List.map_id] at hinj
    refine hinj.mpr fun instruction hmem => ?_
    refine recognised_eq_self_iff.mpr fun opcode hopcode heq => ?_
    exact h opcode (List.mem_cons_of_mem _ hopcode) (heq ▸ hmem)
  have hread : readProgram (encode program).toList = .ok (program, []) := by
    rw [readProgram_written, reread, if_neg hpush, hsame]
  exact whole_eq_ok_iff_exists.mpr ⟨[], hread, blanks_nil⟩

/-- A file of what is written for a canonical program holds the program. -/
theorem Canonical.load_encode {program : Program} (h : Canonical program)
    {look : String → Files.Lookup} {path : String}
    (hlook : look path = .ok (encode program).toUTF8) : load look path = .ok program := by
  rw [load, hlook]
  simp only [Files.text_toUTF8, h.decode_encode_eq_ok]

/-- **Programs that are read are canonical.** A text holds a program only if none of its unknown
opcodes is recognised, and every such program is held by a text. What is written for a program that
was read is read as the same program: writing it again gives the same text, and on every machine it
runs as the one that was read at first. -/
theorem decode_canonical :
    (∀ program : Program, (∃ source, decode source = .ok program) ↔
      ∀ opcode ∈ recognisedOpcodes, Instruction.unknown opcode ∉ program) ∧
    ∀ (source : String) (program : Program), decode source = .ok program →
      decode (encode program) = .ok program ∧
      ∀ again, decode (encode program) = .ok again → encode again = encode program ∧
        ∀ m : Machine, (m.execute again).result = (m.execute program).result ∧
          (m.execute again).machine = (m.execute program).machine := by
  constructor
  · intro program
    constructor
    · rintro ⟨source, hdecode⟩
      exact canonical_of_decode hdecode
    · intro h
      exact ⟨encode program, Canonical.decode_encode_eq_ok h⟩
  · intro source program hdecode
    have hsame := (canonical_of_decode hdecode).decode_encode_eq_ok
    refine ⟨hsame, fun again hagain => ?_⟩
    obtain rfl : program = again := Except.ok.inj (hsame.symm.trans hagain)
    exact ⟨rfl, fun m => ⟨rfl, rfl⟩⟩

/-- An opcode that is spelled with an escape, and two instructions in the form of lists. -/
theorem decode_canonical_escaped :
    let source := "[\x7b\"opcode\":\"\\u0050OP\"\x7d,[\"NOP\"],[\"PUSH\",3]]"
    let program : Program := [.pop, .unknown "NOP", .push 3]
    decode source = .ok program ∧ Instruction.unknown "POP" ∉ program ∧
      decode (encode program) = .ok program := by
  intro source program
  have hread : (decode source).toOption = some program := by decide +kernel
  have hdecode : decode source = .ok program := by
    cases hsource : decode source <;> simp_all [Except.toOption]
  have hknown := (decode_canonical.1 program).mp ⟨source, hdecode⟩
  exact ⟨hdecode, hknown "POP" (by decide), (decode_canonical.2 source program hdecode).1⟩

end StackMachine.Program
