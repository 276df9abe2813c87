import StackMachine.Proofs.Json.Extension
import StackMachine.Proofs.Program.RoundTrip

/-!
# Reading longer programs

What a program's readers find in a text they find in every longer text. A field may end with a
number, and then what is appended must not continue it; an instruction and a program end with a
bracket, so nothing is asked there.
-/

namespace StackMachine.Program

open Json

variable {s rest u : List Char}

/-! ## Fields -/

theorem readOpcode_append_of_ok {opcode : String} (h : readOpcode s = .ok (opcode, rest))
    (u : List Char) : readOpcode (s ++ u) = .ok (opcode, rest ++ u) := by
  unfold readOpcode at h
  split at h
  · simp at h
  · rename_i hblanks
    rw [readOpcode, skipBlanks_append_of_cons hblanks]
    split at h
    · simp at h
    · rename_i hread
      simp only [readString_append_of_ok hread]
      simp_all
  · simp at h

theorem readOperand_append_of_ok {operand : Option Int64}
    (h : readOperand s = .ok (operand, rest)) (hu : rest = [] → Stops u) :
    readOperand (s ++ u) = .ok (operand, rest ++ u) := by
  unfold readOperand at h
  split at h
  · simp at h
  · rename_i hblanks
    rw [readOperand, skipBlanks_append_of_cons hblanks]
    split at h
    · simp at h
    · rename_i hread
      simp only [readWord_append_of_ok hread]
      simp_all
  · rename_i c after hnull hblanks
    split at h
    · rename_i hstart
      split at h
      · simp at h
      · rename_i number rest' hread
        split at h
        · simp at h
        · rename_i hoperand
          rw [Except.ok.injEq, Prod.mk.injEq] at h
          obtain ⟨rfl, rfl⟩ := h
          have hlonger := readNumber_append_of_ok hread hu
          rw [List.cons_append] at hlonger
          rw [readOperand, skipBlanks_append_of_cons hblanks]
          simp only [if_pos hstart, hlonger, hoperand]
    · simp at h

section Fields

variable {fields fields' : Fields}

theorem readOpcodeField_append_of_ok (h : readOpcodeField fields s = .ok (fields', rest))
    (u : List Char) : readOpcodeField fields (s ++ u) = .ok (fields', rest ++ u) := by
  unfold readOpcodeField at h
  split at h
  · simp at h
  · rename_i hset
    split at h
    · simp at h
    · rename_i hcolon
      split at h
      · simp at h
      · rename_i hread
        simp only [readOpcodeField, if_neg hset, readColon_append_of_ok hcolon,
          readOpcode_append_of_ok hread]
        simp_all

theorem readOperandField_append_of_ok (h : readOperandField fields s = .ok (fields', rest))
    (hu : rest = [] → Stops u) :
    readOperandField fields (s ++ u) = .ok (fields', rest ++ u) := by
  unfold readOperandField at h
  split at h
  · simp at h
  · rename_i hset
    split at h
    · simp at h
    · rename_i hcolon
      split at h
      · simp at h
      · rename_i hread
        rw [Except.ok.injEq, Prod.mk.injEq] at h
        obtain ⟨rfl, rfl⟩ := h
        simp only [readOperandField, if_neg hset, readColon_append_of_ok hcolon,
          readOperand_append_of_ok hread hu]

theorem skipField_append_of_ok (h : skipField fields s = .ok (fields', rest))
    (hu : rest = [] → Stops u) : skipField fields (s ++ u) = .ok (fields', rest ++ u) := by
  unfold skipField at h
  split at h
  · simp at h
  · rename_i hcolon
    split at h
    · simp at h
    · rename_i hskip
      rw [Except.ok.injEq, Prod.mk.injEq] at h
      obtain ⟨rfl, rfl⟩ := h
      simp only [skipField, readColon_append_of_ok hcolon, skipValue_append_of_ok hskip hu]

theorem readField_append_of_ok {key : String} (h : readField fields key s = .ok (fields', rest))
    (hu : rest = [] → Stops u) : readField fields key (s ++ u) = .ok (fields', rest ++ u) := by
  unfold readField at h ⊢
  split at h
  · rename_i hopcode
    rw [if_pos hopcode]
    exact readOpcodeField_append_of_ok h u
  · rename_i hopcode
    rw [if_neg hopcode]
    split at h
    · rename_i hoperand
      rw [if_pos hoperand]
      exact readOperandField_append_of_ok h hu
    · rename_i hoperand
      rw [if_neg hoperand]
      exact skipField_append_of_ok h hu

theorem readMember_append_of_ok (h : readMember fields s = .ok (fields', rest))
    (hu : rest = [] → Stops u) : readMember fields (s ++ u) = .ok (fields', rest ++ u) := by
  unfold readMember at h
  split at h
  · simp at h
  · rename_i hkey
    simp only [readMember, readKey_append_of_ok hkey]
    exact readField_append_of_ok h hu

end Fields

/-! ## Records -/

/-- What stands before something that is read is not the end of the text. -/
theorem ne_nil_of_length_lt {s rest : List Char} (h : rest.length < s.length) : s ≠ [] := by
  rintro rfl
  exact Nat.not_lt_zero _ h

theorem readMembers_append_of_ok {fields : Fields} {first : Bool} {record : Instruction.Record}
    (h : readMembers fields first s = .ok (record, rest)) (u : List Char) :
    readMembers fields first (s ++ u) = .ok (record, rest ++ u) := by
  fun_induction readMembers fields first s with
  | case1 => simp at h
  | case2 fields first s after hstart =>
    rw [readMembers_of_close (startItem_append_of_ok hstart u)]
    cases hmade : fields.record with
    | error fault => simp [hmade, Except.map] at h
    | ok made => simp_all [Except.map]
  | case3 => simp at h
  | case4 fields first s member hstart fields' after hread ih =>
    have hbehind := ne_nil_of_length_lt (length_lt_of_readMembers h)
    have hmember := readMember_append_of_ok hread (u := u) fun hnil => absurd hnil hbehind
    rw [readMembers_of_item (startItem_append_of_ok hstart u), hmember]
    exact ih h

theorem readListEnd_append_of_ok (h : readListEnd s = .ok rest) (u : List Char) :
    readListEnd (s ++ u) = .ok (rest ++ u) := by
  unfold readListEnd at h
  split at h
  · simp at h
  · rename_i hblanks
    rw [readListEnd, skipBlanks_append_of_cons hblanks]
    simp_all
  · split at h <;> simp at h
  · simp at h

/-- The end of a list is read from the front. -/
theorem length_lt_of_readListEnd (h : readListEnd s = .ok rest) : rest.length < s.length := by
  have hshrinks := length_skipBlanks_le s
  unfold readListEnd at h
  split at h
  · simp at h
  · rename_i hblanks
    rw [hblanks, List.length_cons, Except.ok.inj h] at hshrinks
    exact hshrinks
  · split at h <;> simp at h
  · simp at h

theorem readPairEnd_append_of_ok {opcode : String} {record : Instruction.Record}
    (h : readPairEnd opcode s = .ok (record, rest)) (u : List Char) :
    readPairEnd opcode (s ++ u) = .ok (record, rest ++ u) := by
  unfold readPairEnd at h ⊢
  split at h
  · simp at h
  · rename_i hstart
    rw [startItem_append_of_ok hstart]
    simp_all [ItemStart.append]
  · rename_i item hstart
    rw [startItem_append_of_ok hstart]
    cases hoperand : readOperand item with
    | error fault => simp [hoperand, Except.bind] at h
    | ok pair =>
      obtain ⟨operand, after⟩ := pair
      simp only [hoperand, Except.bind] at h
      cases hend : readListEnd after with
      | error fault => simp [hend, Except.map] at h
      | ok last =>
        have hbehind := ne_nil_of_length_lt (length_lt_of_readListEnd hend)
        have hlonger := readOperand_append_of_ok hoperand (u := u) fun hnil => absurd hnil hbehind
        simp only [ItemStart.append, hlonger, Except.bind, readListEnd_append_of_ok hend]
        simp_all [Except.map]

theorem readPair_append_of_ok {record : Instruction.Record} (h : readPair s = .ok (record, rest))
    (u : List Char) : readPair (s ++ u) = .ok (record, rest ++ u) := by
  cases hstart : startItem .list true s with
  | error fault => simp [readPair, hstart] at h
  | ok start =>
    cases start with
    | close after => simp [readPair, hstart] at h
    | item item =>
      rw [readPair_of_item hstart] at h
      rw [readPair_of_item (startItem_append_of_ok hstart u)]
      cases hopcode : readOpcode item with
      | error fault => simp [hopcode, Except.bind] at h
      | ok pair =>
        rw [hopcode] at h
        rw [readOpcode_append_of_ok hopcode]
        exact readPairEnd_append_of_ok h u

theorem readRecord_append_of_ok {record : Instruction.Record}
    (h : readRecord s = .ok (record, rest)) (u : List Char) :
    readRecord (s ++ u) = .ok (record, rest ++ u) := by
  unfold readRecord at h
  split at h
  · simp at h
  · rename_i hblanks
    rw [readRecord, skipBlanks_append_of_cons hblanks]
    exact readPair_append_of_ok h u
  · rename_i hblanks
    rw [readRecord, skipBlanks_append_of_cons hblanks]
    exact readMembers_append_of_ok h u
  · simp at h

/-! ## Instructions and programs -/

theorem readInstruction_append_of_ok {instruction : Instruction}
    (h : readInstruction s = .ok (instruction, rest)) (u : List Char) :
    readInstruction (s ++ u) = .ok (instruction, rest ++ u) := by
  unfold readInstruction at h
  split at h
  · simp at h
  · rename_i hread
    simp only [readInstruction, readRecord_append_of_ok hread]
    split at h
    · simp at h
    · simp_all

theorem readInstructions_append_of_ok {first : Bool} {program : Program}
    (h : readInstructions first s = .ok (program, rest)) (u : List Char) :
    readInstructions first (s ++ u) = .ok (program, rest ++ u) := by
  fun_induction readInstructions first s generalizing program with
  | case1 => simp at h
  | case2 first s after hstart =>
    rw [readInstructions_of_close (startItem_append_of_ok hstart u)]
    simp_all
  | case3 => simp at h
  | case4 first s element hstart instruction after hread ih =>
    rw [readInstructions_of_item (startItem_append_of_ok hstart u),
      readInstruction_append_of_ok hread]
    exact map_append_of_ok h fun program hmore => ih hmore

/-- What is read as a program is read as the same program from every longer text. -/
theorem readProgram_append_of_ok {program : Program} (h : readProgram s = .ok (program, rest))
    (u : List Char) : readProgram (s ++ u) = .ok (program, rest ++ u) := by
  unfold readProgram at h
  split at h
  · simp at h
  · rename_i hblanks
    rw [readProgram, skipBlanks_append_of_cons hblanks]
    exact readInstructions_append_of_ok h u
  · simp at h

end StackMachine.Program
