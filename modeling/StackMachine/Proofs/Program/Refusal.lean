import StackMachine.Proofs.Json.Form
import StackMachine.Proofs.Program.Extension

/-!
# Refused instructions in longer programs

An instruction whose text is well-formed and which is refused nevertheless, because of a value of
another kind, a field that is absent or stands twice, or an operand that is missing, is refused for
the same reason in every longer text. The reason may be a number at the end of the text, and then
what is appended must not continue it, which is the condition `Stops`.
-/

namespace StackMachine.Program

open Json

variable {s u : List Char} {fault : DataFault}

/-! ## Fields -/

theorem readOpcode_append_of_data (h : readOpcode s = .error (.data fault)) (hu : Stops u) :
    readOpcode (s ++ u) = .error (.data fault) := by
  unfold readOpcode at h
  split at h
  · simp at h
  · split at h
    · rename_i hread
      exact absurd h ((formal_readString _).error hread fault)
    · simp at h
  · rename_i next hnil hquote
    obtain ⟨c, rest, hblanks⟩ := List.exists_cons_of_ne_nil hnil
    rw [Except.error.injEq] at h
    have hlonger := mismatch_append_of_data h hu
    rw [hblanks, List.cons_append] at hlonger
    rw [readOpcode, skipBlanks_append_of_cons hblanks]
    split
    · simp_all
    · simp_all
    · rw [hlonger]

theorem readOperand_append_of_data (h : readOperand s = .error (.data fault)) (hu : Stops u) :
    readOperand (s ++ u) = .error (.data fault) := by
  unfold readOperand at h
  split at h
  · simp at h
  · split at h
    · rename_i hread
      exact absurd h ((formal_readWord _ _).error hread fault)
    · simp at h
  · rename_i c rest hnull hblanks
    rw [readOperand, skipBlanks_append_of_cons hblanks]
    split at h
    · rename_i hstart
      split at h
      · rename_i hread
        exact absurd h ((formal_readNumber _).error hread fault)
      · rename_i hread
        have hlonger := readNumber_append_of_ok hread fun _ => hu
        rw [List.cons_append] at hlonger
        split at h
        · rename_i hoperand
          simp only [if_pos hstart, hlonger, hoperand, h]
        · simp at h
    · rename_i hstart
      rw [Except.error.injEq] at h
      have hlonger := mismatch_append_of_data h hu
      rw [List.cons_append] at hlonger
      simp only [if_neg hstart, hlonger]

section Fields

variable {fields : Fields}

theorem readOpcodeField_append_of_data (h : readOpcodeField fields s = .error (.data fault))
    (hu : Stops u) : readOpcodeField fields (s ++ u) = .error (.data fault) := by
  unfold readOpcodeField at h
  split at h
  · rename_i hset
    rw [readOpcodeField, if_pos hset, h]
  · rename_i hset
    split at h
    · rename_i hcolon
      exact absurd h ((formal_readColon _).error hcolon fault)
    · rename_i hcolon
      split at h
      · rename_i hread
        rw [Except.error.inj h] at hread
        simp only [readOpcodeField, if_neg hset, readColon_append_of_ok hcolon,
          readOpcode_append_of_data hread hu]
      · simp at h

theorem readOperandField_append_of_data (h : readOperandField fields s = .error (.data fault))
    (hu : Stops u) : readOperandField fields (s ++ u) = .error (.data fault) := by
  unfold readOperandField at h
  split at h
  · rename_i hset
    rw [readOperandField, if_pos hset, h]
  · rename_i hset
    split at h
    · rename_i hcolon
      exact absurd h ((formal_readColon _).error hcolon fault)
    · rename_i hcolon
      split at h
      · rename_i hread
        rw [Except.error.inj h] at hread
        simp only [readOperandField, if_neg hset, readColon_append_of_ok hcolon,
          readOperand_append_of_data hread hu]
      · simp at h

/-- Of a member that is no field only the form counts. -/
theorem formal_skipField (fields : Fields) (s : List Char) : Formal (skipField fields s) := by
  unfold skipField
  split
  · rename_i hcolon
    exact (formal_readColon _).error hcolon
  · split
    · rename_i hskip
      exact (formal_skipValues [] _).error hskip
    · exact formal_ok _

theorem readField_append_of_data {key : String} (h : readField fields key s = .error (.data fault))
    (hu : Stops u) : readField fields key (s ++ u) = .error (.data fault) := by
  unfold readField at h ⊢
  split at h
  · rename_i hopcode
    rw [if_pos hopcode]
    exact readOpcodeField_append_of_data h hu
  · rename_i hopcode
    rw [if_neg hopcode]
    split at h
    · rename_i hoperand
      rw [if_pos hoperand]
      exact readOperandField_append_of_data h hu
    · exact absurd h (formal_skipField fields s fault)

theorem readMember_append_of_data (h : readMember fields s = .error (.data fault))
    (hu : Stops u) : readMember fields (s ++ u) = .error (.data fault) := by
  unfold readMember at h
  split at h
  · rename_i hkey
    exact absurd h ((formal_readKey _).error hkey fault)
  · rename_i hkey
    simp only [readMember, readKey_append_of_ok hkey]
    exact readField_append_of_data h hu

end Fields

/-! ## Records -/

theorem readMembers_append_of_data {fields : Fields} {first : Bool}
    (h : readMembers fields first s = .error (.data fault)) (hu : Stops u) :
    readMembers fields first (s ++ u) = .error (.data fault) := by
  fun_induction readMembers fields first s with
  | case1 fields first s fault' hstart =>
    exact absurd h ((formal_startItem .object first s).error hstart fault)
  | case2 fields first s rest hstart =>
    -- the fields are complete, and what is left of the text does not matter
    rw [readMembers_of_close (startItem_append_of_ok hstart u)]
    cases hmade : fields.record with
    | error fault => simpa [hmade, Except.map] using h
    | ok record => simp [hmade, Except.map] at h
  | case3 fields first s member hstart fault' hread =>
    rw [Except.error.inj h] at hread
    rw [readMembers_of_item (startItem_append_of_ok hstart u),
      readMember_append_of_data hread hu]
    rfl
  | case4 fields first s member hstart fields' rest hread ih =>
    have hmember := readMember_append_of_ok hread (u := u) fun _ => hu
    rw [readMembers_of_item (startItem_append_of_ok hstart u), hmember]
    exact ih h

theorem formal_readListEnd (s : List Char) : Formal (readListEnd s) := by
  unfold readListEnd
  split
  · exact formal_ended _
  · exact formal_ok _
  · split
    · exact formal_grammar _
    · exact formal_grammar _
  · exact formal_grammar _

theorem readPairEnd_append_of_data {opcode : String}
    (h : readPairEnd opcode s = .error (.data fault)) (hu : Stops u) :
    readPairEnd opcode (s ++ u) = .error (.data fault) := by
  unfold readPairEnd at h
  split at h
  · rename_i hstart
    exact absurd h ((formal_startItem .list false s).error hstart fault)
  · simp at h
  · rename_i item hstart
    cases hoperand : readOperand item with
    | error fault' =>
      rw [hoperand] at h
      rw [Except.error.inj h] at hoperand
      simp only [readPairEnd, startItem_append_of_ok hstart u, ItemStart.append,
        readOperand_append_of_data hoperand hu]
      rfl
    | ok pair =>
      rw [hoperand] at h
      exact absurd h ((formal_readListEnd pair.2).map _ fault)

theorem readPair_append_of_data (h : readPair s = .error (.data fault)) (hu : Stops u) :
    readPair (s ++ u) = .error (.data fault) := by
  cases hstart : startItem .list true s with
  | error fault' =>
    rw [readPair, hstart] at h
    exact absurd h ((formal_startItem .list true s).error hstart fault)
  | ok start =>
    have hlonger := startItem_append_of_ok hstart u
    cases start with
    | close rest =>
      rw [readPair, hstart] at h
      rw [readPair, hlonger]
      exact h
    | item item =>
      rw [readPair_of_item hstart] at h
      rw [readPair_of_item hlonger]
      cases hopcode : readOpcode item with
      | error fault' =>
        rw [hopcode] at h
        rw [Except.error.inj h] at hopcode
        rw [readOpcode_append_of_data hopcode hu]
        rfl
      | ok pair =>
        rw [hopcode] at h
        rw [readOpcode_append_of_ok hopcode]
        exact readPairEnd_append_of_data h hu

theorem readRecord_append_of_data (h : readRecord s = .error (.data fault)) (hu : Stops u) :
    readRecord (s ++ u) = .error (.data fault) := by
  unfold readRecord at h
  split at h
  · simp at h
  · rename_i hblanks
    rw [readRecord, skipBlanks_append_of_cons hblanks]
    exact readPair_append_of_data h hu
  · rename_i hblanks
    rw [readRecord, skipBlanks_append_of_cons hblanks]
    exact readMembers_append_of_data h hu
  · rename_i next hnil hlist hobject
    obtain ⟨c, rest, hblanks⟩ := List.exists_cons_of_ne_nil hnil
    rw [Except.error.injEq] at h
    have hlonger := mismatch_append_of_data h hu
    rw [hblanks, List.cons_append] at hlonger
    rw [readRecord, skipBlanks_append_of_cons hblanks]
    split
    · simp_all
    · simp_all
    · simp_all
    · rw [hlonger]

/-! ## Instructions -/

/-- An instruction that is refused in a well-formed text is refused in every longer one. -/
theorem readInstruction_append_of_data (h : readInstruction s = .error (.data fault))
    (hu : Stops u) : readInstruction (s ++ u) = .error (.data fault) := by
  unfold readInstruction at h
  split at h
  · rename_i hread
    rw [Except.error.inj h] at hread
    rw [readInstruction, readRecord_append_of_data hread hu]
  · rename_i hread
    simp only [readInstruction, readRecord_append_of_ok hread]
    split at h
    · rename_i hrecord
      simp only [h]
    · simp at h

/-- A text that holds one value is refused for a fault of its value when that is refused. -/
theorem whole_eq_data_iff {α : Type} {read : List Char → Reading α} {source : String} :
    whole read source = .error (.data fault) ↔ read source.toList = .error (.data fault) := by
  rw [whole]
  constructor
  · intro h
    split at h
    · rename_i hread
      rw [hread, Except.error.inj h]
    · exact absurd h ((formal_expectEnd _).map _ fault)
  · intro h
    rw [h]

end StackMachine.Program
