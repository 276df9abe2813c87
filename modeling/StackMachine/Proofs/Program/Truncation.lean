import StackMachine.Proofs.Json.Truncation
import StackMachine.Proofs.Program.Extension

/-!
# Programs that are cut off

A text that is cut off is not mistaken for a shorter program (`decode_truncated`). A program ends
with its bracket: a text that is accepted stays accepted when more is appended only if what is
appended is blank. Of what is written for a program every cut is refused because the text has ended,
and for no other reason.
-/

namespace StackMachine.Program

open Json

/-! ## Members -/

theorem runsOut_readMembers {fields : Fields} {first : Bool} {s : List Char}
    (h : RunsOut (startItem .object first s)) : RunsOut (readMembers fields first s) := by
  obtain ⟨fault, hfault⟩ := h
  refine ⟨fault, ?_⟩
  rw [readMembers]
  split <;> simp_all

theorem needs_readMembers_closing (fields : Fields) (first : Bool) :
    Needs (readMembers fields first) [Bracket.object.closing] :=
  (needs_closing .object first).mono fun _ => runsOut_readMembers

/-- A member is needed from its key on. -/
theorem needs_readMembers_member {fields : Fields} {first : Bool} {key : String} {more : List Char}
    (h : Needs (fun s => (readField fields key s).bind fun p => readMembers p.1 false p.2) more) :
    Needs (readMembers fields first) (lead first ++ (writeString key ++ more)) := by
  have htext : writeString key ++ more = '"' :: ((key.toList.flatMap writeChar ++ ['"']) ++ more) :=
    rfl
  have hread : ∀ s, readMembers fields first (lead first ++ '"' :: s) =
      (readString s).bind fun p => (readField fields (String.ofList p.1) p.2).bind
        fun q => readMembers q.1 false q.2 := by
    intro s
    rw [readMembers_of_item (startItem_lead rfl (by decide) first s), readMember, readKey]
    cases readString s <;> rfl
  rw [htext]
  refine needs_entry (fun _ => runsOut_readMembers) ?_
  simp only [hread]
  refine (spans_readString key.toList).bind ?_
  simpa only [String.ofList_toList] using h

theorem spans_readOpcode (opcode : String) : Spans readOpcode (writeString opcode) opcode := by
  constructor
  · intro rest
    exact (finds_readOpcode (renders_writeString opcode) blanks_nil rest).eq_ok rfl
  · refine needs_cons ⟨.inValue, rfl⟩ ((spans_readString opcode.toList).needs.mono ?_)
    rintro s ⟨fault, hfault⟩
    refine ⟨fault, ?_⟩
    rw [readOpcode, skipBlanks_cons rfl]
    simp only [hfault]

theorem spans_readOpcodeField {fields : Fields} (h : fields.opcode = none) (opcode : String) :
    Spans (readField fields "opcode") (':' :: writeString opcode)
      { fields with opcode := some opcode } := by
  have hread : ∀ s, readField fields "opcode" (':' :: s) =
      (readOpcode s).map fun p => ({ fields with opcode := some p.1 }, p.2) :=
    fun s => readOpcodeField_of_none h blanks_nil s
  have hopcode := spans_readOpcode opcode
  constructor
  · intro rest
    rw [List.cons_append, hread, hopcode.whole]
    rfl
  · refine needs_cons ⟨.inObject, ?_⟩ (hopcode.needs.mono fun s hs => ?_)
    · rw [readField, if_pos rfl, readOpcodeField, h]
      rfl
    · rw [hread]
      exact hs.map _

/-- A cut of an operand is no operand yet, or it is a shorter one. -/
theorem readOperand_of_cut (operand : Int64) {cut : List Char}
    (hcut : cut <+: writeInteger operand.toInt) :
    RunsOut (readOperand cut) ∨ ∃ shorter, readOperand cut = .ok (some shorter, []) := by
  have hfits := Arithmetic.fits_toInt operand
  unfold Arithmetic.Fits at hfits
  cases cut with
  | nil => exact Or.inl ⟨.inValue, rfl⟩
  | cons c s =>
    obtain ⟨missing, hmissing⟩ := hcut
    obtain ⟨d, digits, hdigits, hd⟩ := (numberText_writeInteger operand.toInt).start
    obtain rfl : c = d := by
      rw [hdigits, List.cons_append] at hmissing
      exact (List.cons.inj hmissing).1
    have hread := readOperand_of_numberStart blanks_nil hd s
    rw [List.nil_append] at hread
    rcases readNumber_of_cut hfits ⟨missing, hmissing⟩ with hends | ⟨m, hm, hnumber⟩
    · rw [hread]
      exact Or.inl (hends.bind _)
    · rw [hread, hnumber]
      refine Or.inr ⟨Int64.ofInt m, ?_⟩
      simp only [Except.bind, operandOf, if_pos hm, Except.map]

/-- Behind an operand its record is needed to be closed. -/
theorem needs_readOperandField {fields : Fields} (h : fields.operand = none) (operand : Int64) :
    Needs (fun s => (readField fields "operand" s).bind fun p => readMembers p.1 false p.2)
      (':' :: (writeInteger operand.toInt ++ [Bracket.object.closing])) := by
  have hread : ∀ s, readField fields "operand" (':' :: s) =
      (readOperand s).map fun p => ({ fields with operand := some p.1 }, p.2) :=
    fun s => readOperandField_of_none h blanks_nil s
  refine needs_cons ⟨.inObject, ?_⟩ fun cut hcut hne => ?_
  · rw [readField, if_neg (by decide), if_pos rfl, readOperandField, h]
    rfl
  · have hcut := (List.prefix_concat_iff.mp hcut).resolve_left hne
    dsimp only
    rw [hread]
    rcases readOperand_of_cut operand hcut with hends | ⟨shorter, hshorter⟩
    · exact (hends.map _).bind _
    · rw [hshorter]
      exact runsOut_readMembers ⟨.inObject, rfl⟩

/-! ## Records and instructions -/

/-- A record is needed up to its closing bracket. -/
theorem needs_readRecord (record : Instruction.Record) :
    Needs readRecord (recordValue record).write := by
  obtain ⟨opcode, operand⟩ := record
  have hopcode := @spans_readOpcodeField {} rfl opcode
  have hrecord : ∀ more, Needs (readMembers { opcode := some opcode } false) more →
      Needs readRecord ('{' :: (writeString "opcode" ++ (':' :: writeString opcode ++ more))) :=
    fun more hmore => needs_cons ⟨.inValue, rfl⟩
      (@needs_readMembers_member {} true "opcode" _ (hopcode.bind hmore))
  cases operand with
  | none =>
    have htext : (recordValue ⟨opcode, none⟩).write = '{' :: (writeString "opcode" ++
        (':' :: writeString opcode ++ [Bracket.object.closing])) := by
      simp [recordValue, Value.write, Value.writeMembers, Bracket.closing]
    rw [htext]
    exact hrecord _ (needs_readMembers_closing _ false)
  | some operand =>
    have htext : (recordValue ⟨opcode, some operand⟩).write = '{' :: (writeString "opcode" ++
        (':' :: writeString opcode ++ (lead false ++ (writeString "operand" ++
          ':' :: (writeInteger operand.toInt ++ [Bracket.object.closing]))))) := by
      simp [recordValue, Value.integer, Value.write, Value.writeMembers, writeNumber, lead,
        Bracket.closing]
    rw [htext]
    exact hrecord _ (needs_readMembers_member (needs_readOperandField rfl operand))

/-- What is written for an instruction is read as a whole and not in part. -/
theorem spans_readInstruction {instruction : Instruction} (h : instruction ≠ .unknown "PUSH") :
    Spans readInstruction (written instruction) (recognised instruction) := by
  refine ⟨readInstruction_written h, (needs_readRecord instruction.toRecord).mono ?_⟩
  rintro s ⟨fault, hfault⟩
  exact ⟨fault, by rw [readInstruction, hfault]⟩

/-! ## Programs -/

theorem runsOut_readInstructions {first : Bool} {s : List Char}
    (h : RunsOut (startItem .list first s)) : RunsOut (readInstructions first s) := by
  obtain ⟨fault, hfault⟩ := h
  refine ⟨fault, ?_⟩
  rw [readInstructions]
  split <;> simp_all

theorem needs_readInstructions_cons {instruction : Instruction} {first : Bool} {more : List Char}
    (h : instruction ≠ .unknown "PUSH") (hmore : Needs (readInstructions false) more) :
    Needs (readInstructions first) (lead first ++ (written instruction ++ more)) := by
  obtain ⟨text, htext⟩ : ∃ text, written instruction = '{' :: text := ⟨_, rfl⟩
  have hspans := spans_readInstruction h
  have hread : ∀ s, readInstructions first (lead first ++ '{' :: s) =
      (readInstruction ('{' :: s)).bind fun p =>
        (readInstructions false p.2).map fun q => (p.1 :: q.1, q.2) :=
    fun s => readInstructions_of_item (startItem_lead rfl (by decide) first s)
  have hneeds : Needs (fun s => (readInstruction s).bind fun p =>
      (readInstructions false p.2).map fun q => (p.1 :: q.1, q.2)) (written instruction ++ more) :=
    hspans.bind (hmore.mono fun s hs => hs.map _)
  rw [htext, List.cons_append] at hneeds ⊢
  refine needs_entry (fun _ => runsOut_readInstructions) ?_
  simp only [hread]
  exact hneeds.tail

/-- The instructions that are left are needed up to the end of the program. -/
theorem needs_readInstructions {program : Program} (h : .unknown "PUSH" ∉ program) :
    Needs (readInstructions false) (Bracket.list.remainder (program.map written) []) := by
  induction program with
  | nil => exact (needs_closing .list false).mono fun _ => runsOut_readInstructions
  | cons instruction program ih =>
    obtain ⟨hne, hprogram⟩ := List.ne_and_not_mem_of_not_mem_cons h
    rw [List.map_cons, remainder_cons]
    exact needs_readInstructions_cons (Ne.symm hne) (ih hprogram)

/-- What is written for a program is needed up to its end. -/
theorem needs_readProgram {program : Program} (h : .unknown "PUSH" ∉ program) :
    Needs readProgram (encode program).toList := by
  rw [toList_encode]
  refine needs_cons ⟨.inValue, rfl⟩ ?_
  show Needs (readInstructions true) _
  cases program with
  | nil => exact (needs_closing .list true).mono fun _ => runsOut_readInstructions
  | cons instruction program =>
    obtain ⟨hne, hprogram⟩ := List.ne_and_not_mem_of_not_mem_cons h
    rw [List.map_cons, writeItems_cons, List.map_map, List.append_assoc]
    show Needs _ (lead true ++ _)
    exact needs_readInstructions_cons (Ne.symm hne) (needs_readInstructions hprogram)

/-! ## Texts that are accepted -/

/-- A text that is accepted stays accepted with blanks behind it, and with nothing else. -/
theorem decode_append_eq_ok_iff {source : String} {program : Program}
    (h : decode source = .ok program) {more : String} {program' : Program} :
    decode (source ++ more) = .ok program' ↔ program' = program ∧ Blanks more.toList := by
  obtain ⟨rest, hread, hrest⟩ := whole_eq_ok_iff_exists.mp h
  rw [decode, whole_eq_ok_iff_exists, String.toList_append, readProgram_append_of_ok hread]
  constructor
  · rintro ⟨after, hafter, hblanks⟩
    rw [Except.ok.injEq, Prod.mk.injEq] at hafter
    obtain ⟨rfl, rfl⟩ := hafter
    exact ⟨rfl, fun c hc => hblanks c (List.mem_append_right rest hc)⟩
  · rintro ⟨rfl, hblanks⟩
    refine ⟨_, rfl, fun c hc => ?_⟩
    rcases List.mem_append.mp hc with hc | hc
    · exact hrest c hc
    · exact hblanks c hc

/-- A text without some of the characters at its end. -/
def ProperPrefix (cut source : String) : Prop :=
  ∃ missing, missing ≠ "" ∧ cut ++ missing = source

/-- Every cut of a text that is accepted and does not end with a blank is refused. What is written
for a program is accepted as a whole, and every cut of it is refused because the text has ended. -/
theorem decode_truncated :
    (∀ (source cut : String) (program : Program), decode source = .ok program →
      (∀ c ∈ source.toList.getLast?, c ∉ [' ', '\t', '\n', '\r']) → ProperPrefix cut source →
      ∃ fault, decode cut = .error fault) ∧
    (∀ program : Program, .unknown "PUSH" ∉ program →
      decode (encode program) = .ok (program.map recognised) ∧
        ∀ cut, ProperPrefix cut (encode program) →
          ∃ fault, decode cut = .error (.ended fault)) := by
  constructor
  · rintro source cut program hdecode hlast ⟨missing, hne, rfl⟩
    cases hcut : decode cut with
    | error fault => exact ⟨fault, rfl⟩
    | ok shorter =>
      -- the text would be accepted without its last character, which is no blank
      obtain ⟨-, hblanks⟩ := (decode_append_eq_ok_iff hcut).mp hdecode
      have hne : missing.toList ≠ [] := by simpa using hne
      have hmem := List.getLast?_eq_some_getLast hne
      rw [String.toList_append, List.getLast?_append, hmem] at hlast
      exact absurd (hblanks _ (List.getLast_mem hne)) (hlast _ rfl)
  · intro program hpush
    have hread : readProgram (encode program).toList = .ok (program.map recognised, []) := by
      rw [readProgram_written, reread, if_neg hpush]
    refine ⟨whole_eq_ok_iff_exists.mpr ⟨[], hread, blanks_nil⟩, ?_⟩
    rintro cut ⟨missing, hne, hcut⟩
    have htext : cut.toList ++ missing.toList = (encode program).toList := by
      rw [← String.toList_append, hcut]
    have hproper : cut.toList ≠ (encode program).toList := by
      intro heq
      rw [← heq] at htext
      exact hne (by simpa using htext)
    obtain ⟨fault, hfault⟩ := needs_readProgram hpush cut.toList ⟨missing.toList, htext⟩ hproper
    exact ⟨fault, by rw [decode, whole, hfault]⟩

/-- A cut within an operand, where a shorter number is left. -/
theorem decode_truncated_operand :
    decode (encode [.push 12]) = .ok [.push 12] ∧
    (∃ fault, decode "[\x7b\"opcode\":\"PUSH\",\"operand\":1" = .error fault) ∧
    ∃ fault, decode "[\x7b\"opcode\":\"PUSH\",\"operand\":1" = .error (.ended fault) := by
  obtain ⟨hwhole, hcuts⟩ := decode_truncated.2 [.push 12] (by decide)
  have hcut : ProperPrefix "[\x7b\"opcode\":\"PUSH\",\"operand\":1" (encode [.push 12]) :=
    ⟨"2\x7d]", by decide, by decide⟩
  have hlast : (encode [.push 12]).toList.getLast? = some ']' := rfl
  refine ⟨hwhole, decode_truncated.1 (encode [.push 12]) _ _ hwhole ?_ hcut, hcuts _ hcut⟩
  intro c hc
  rw [hlast, Option.mem_some_iff] at hc
  rw [← hc]
  decide

end StackMachine.Program
