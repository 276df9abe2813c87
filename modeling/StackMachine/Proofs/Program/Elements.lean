import Mathlib.Data.List.Forall2
import StackMachine.Proofs.Json.Truncation
import StackMachine.Proofs.Program.Refusal

/-!
# Programs and their instructions

A program is read as its instructions are read alone. The texts of its instructions may have blanks
around them, and commas stand between them. Main statement: if every instruction is accepted alone,
the program is accepted and holds what they are read as; and where the first one stands that is
refused for its value, the program is refused for the same reason, whatever follows
(`decode_of_elements`).
-/

namespace StackMachine.Json

/-! ## Entries of a list -/

/-- A text with blanks around it. -/
inductive Padded (text : List Char) : List Char → Prop
  | mk {a b : List Char} (ha : Blanks a) (hb : Blanks b) : Padded text (a ++ text ++ b)

theorem blanks_append {a b : List Char} (ha : Blanks a) (hb : Blanks b) : Blanks (a ++ b) := by
  intro c hc
  rcases List.mem_append.mp hc with hc | hc
  · exact ha c hc
  · exact hb c hc

/-- The entries of a list, each behind its comma. -/
def listed : Bool → List (List Char) → List Char
  | _, [] => []
  | first, entry :: entries => lead first ++ (entry ++ listed false entries)

theorem listed_false (entries : List (List Char)) :
    listed false entries = entries.flatMap fun next => ',' :: next := by
  induction entries with
  | nil => rfl
  | cons entry entries ih =>
    rw [listed, ih]
    rfl

theorem listed_append_singleton (first : Bool) (entries : List (List Char)) (entry : List Char) :
    listed first (entries ++ [entry]) =
      listed first entries ++ (lead (first && entries.isEmpty) ++ entry) := by
  induction entries generalizing first with
  | nil => simp [listed]
  | cons next entries ih => simp [listed, ih]

/-- Between two brackets stand the entries, or blanks if there is none. -/
theorem Encloses.eq_listed {entries : List (List Char)} {inner : List Char}
    (h : Encloses entries inner) : ∃ b, Blanks b ∧ inner = b ++ listed true entries := by
  cases h with
  | none hblanks => exact ⟨inner, hblanks, (List.append_nil inner).symm⟩
  | some entry entries =>
    refine ⟨[], blanks_nil, ?_⟩
    rw [listed, listed_false]
    rfl

theorem startItem_of_lead {bracket : Bracket} {b s : List Char} (hb : Blanks b) (first : Bool)
    (hs : ∃ c rest, skipBlanks s = c :: rest ∧ c ≠ bracket.closing) :
    startItem bracket first (b ++ (lead first ++ s)) = .ok (.item (skipBlanks s)) := by
  cases first with
  | true =>
    have hskip : skipBlanks (b ++ s) = skipBlanks s := skipBlanks_append hb s
    rw [← hskip] at hs ⊢
    exact startItem_of_first hs
  | false => exact startItem_of_next hb hs

end StackMachine.Json

namespace StackMachine.Program

open Json

variable {element : String} {entry b more : List Char}

/-! ## One instruction -/

theorem readInstruction_skipBlanks (s : List Char) :
    readInstruction (skipBlanks s) = readInstruction s := by
  rw [readInstruction, readInstruction, readRecord, readRecord, skipBlanks_skipBlanks]

/-- A text without a fault of form at its start starts with a character that does not close the
program. -/
theorem start_of_readInstruction {s : List Char}
    (h : ∀ fault, readInstruction s = .error fault → ∃ reason, fault = .data reason) :
    ∃ c rest, skipBlanks s = c :: rest ∧ c ≠ Bracket.list.closing := by
  rw [← readInstruction_skipBlanks] at h
  cases hskip : skipBlanks s with
  | nil =>
    rw [hskip] at h
    obtain ⟨reason, hreason⟩ := h (.ended .inValue) rfl
    simp at hreason
  | cons c rest =>
    refine ⟨c, rest, rfl, ?_⟩
    rintro rfl
    rw [hskip] at h
    obtain ⟨reason, hreason⟩ := h (.grammar .expectedValue) rfl
    simp at hreason

/-- The next instruction of a program is read first. -/
theorem readInstructions_of_lead {s : List Char}
    (h : ∀ fault, readInstruction s = .error fault → ∃ reason, fault = .data reason)
    (hb : Blanks b) (first : Bool) :
    readInstructions first (b ++ (lead first ++ s)) = (readInstruction s).bind fun p =>
      (readInstructions false p.2).map fun q => (p.1 :: q.1, q.2) := by
  rw [readInstructions_of_item (startItem_of_lead hb first (start_of_readInstruction h)),
    readInstruction_skipBlanks]

/-- Blanks before an instruction do not matter, and those behind it are left with what follows. -/
theorem readInstruction_append_of_padded {text : List Char} (h : Padded text entry)
    (more : List Char) : ∃ behind, Blanks behind ∧
      readInstruction (entry ++ more) = readInstruction (text ++ (behind ++ more)) := by
  cases h with
  | @mk before behind hbefore hbehind =>
    refine ⟨behind, hbehind, ?_⟩
    rw [← readInstruction_skipBlanks, List.append_assoc, List.append_assoc,
      skipBlanks_append hbefore, readInstruction_skipBlanks]

/-- An instruction that is accepted alone is read where it stands, and blanks are left of it. -/
theorem readInstructions_of_accepted {instruction : Instruction}
    (h : decodeInstruction element = .ok instruction) (hentry : Padded element.toList entry)
    (hb : Blanks b) (first : Bool) (more : List Char) :
    ∃ left, Blanks left ∧ readInstructions first (b ++ (lead first ++ (entry ++ more))) =
      (readInstructions false (left ++ more)).map fun q => (instruction :: q.1, q.2) := by
  obtain ⟨rest, hread, hrest⟩ := whole_eq_ok_iff_exists.mp h
  obtain ⟨behind, hbehind, hentry⟩ := readInstruction_append_of_padded hentry more
  rw [readInstruction_append_of_ok hread] at hentry
  refine ⟨rest ++ behind, blanks_append hrest hbehind, ?_⟩
  rw [readInstructions_of_lead (by simp [hentry]) hb, hentry, List.append_assoc]
  rfl

/-- An instruction that is refused alone for its value is refused where it stands. -/
theorem readInstructions_of_refused {fault : DataFault}
    (h : decodeInstruction element = .error (.data fault)) (hentry : Padded element.toList entry)
    (hb : Blanks b) (first : Bool) (hmore : Stops more) :
    readInstructions first (b ++ (lead first ++ (entry ++ more))) = .error (.data fault) := by
  have hread := whole_eq_data_iff.mp h
  obtain ⟨behind, hbehind, hentry⟩ := readInstruction_append_of_padded hentry more
  rw [readInstruction_append_of_data hread (stops_append hbehind hmore)] at hentry
  rw [readInstructions_of_lead (by simp [hentry]) hb, hentry]
  rfl

/-! ## All instructions -/

/-- Texts that are accepted alone, as the instructions of a program. -/
def Accepted (elements : List String) (program : Program) : Prop :=
  List.Forall₂ (fun element instruction => decodeInstruction element = .ok instruction) elements
    program

/-- Texts with blanks around them. -/
def PaddedAs (elements : List String) (entries : List (List Char)) : Prop :=
  List.Forall₂ (fun element entry => Padded element.toList entry) elements entries

/-- Instructions that are accepted alone are read one after the other. -/
theorem readInstructions_of_elements {elements : List String} {program : Program}
    {entries : List (List Char)} (h : Accepted elements program)
    (hentries : PaddedAs elements entries) (hb : Blanks b) (first : Bool) (more : List Char) :
    ∃ left, Blanks left ∧ readInstructions first (b ++ (listed first entries ++ more)) =
      (readInstructions (first && entries.isEmpty) (left ++ more)).map fun q =>
        (program ++ q.1, q.2) := by
  induction h generalizing entries b first with
  | nil =>
    cases hentries
    refine ⟨b, hb, ?_⟩
    rw [listed, List.isEmpty_nil, Bool.and_true, List.nil_append]
    cases readInstructions first (b ++ more) <;> rfl
  | cons haccepted _ ih =>
    cases hentries with
    | @cons _ entry _ entries hentry hentries =>
      obtain ⟨after, hafter, hfirst⟩ := readInstructions_of_accepted haccepted hentry hb first
        (listed false entries ++ more)
      obtain ⟨left, hleft, hothers⟩ := ih hentries hafter false
      refine ⟨left, hleft, ?_⟩
      rw [listed, List.append_assoc, List.append_assoc, hfirst, hothers, Bool.false_and,
        List.isEmpty_cons, Bool.and_false]
      cases readInstructions false (left ++ more) <;> rfl

theorem readProgram_of_bracket {a : List Char} (ha : Blanks a) (s : List Char) :
    readProgram (a ++ '[' :: s) = readInstructions true s := by
  rw [readProgram, skipBlanks_append_cons ha rfl]
  rfl

/-- **Programs are read as their instructions are.** A list of instructions that are accepted alone
is accepted, and as the program of what they are accepted as. A list whose instructions are accepted
up to one that is refused for its value is refused for the same reason, with the same message,
whatever follows that instruction. -/
theorem decode_of_elements :
    (∀ (elements : List String) (program : Program) (entries : List (List Char))
      (a inner b : List Char) (source : String),
      Accepted elements program → PaddedAs elements entries → Encloses entries inner →
      Blanks a → Blanks b → source.toList = a ++ '[' :: (inner ++ ']' :: b) →
      decode source = .ok program) ∧
    ∀ (elements : List String) (program : Program) (refused : String) (fault : DataFault)
      (entries : List (List Char)) (entry a inner after : List Char) (stop : Char)
      (source : String),
      Accepted elements program → decodeInstruction refused = .error (.data fault) →
      PaddedAs elements entries → Padded refused.toList entry →
      Encloses (entries ++ [entry]) inner → Blanks a → stop ∈ [',', ']'] →
      source.toList = a ++ '[' :: (inner ++ stop :: after) →
      decode source = .error (.data fault) ∧
        faultMessage (.data fault) = "Invalid program JSON: " ++ fault.message := by
  constructor
  · intro elements program entries a inner b source h hentries hinner ha hb hsource
    obtain ⟨blanks, hblanks, rfl⟩ := hinner.eq_listed
    obtain ⟨left, hleft, hread⟩ :=
      readInstructions_of_elements h hentries hblanks true (Bracket.list.closing :: b)
    rw [readInstructions_of_close (startItem_of_closing hleft _ b)] at hread
    refine whole_eq_ok_iff_exists.mpr ⟨b, ?_, hb⟩
    rw [hsource, readProgram_of_bracket ha, List.append_assoc]
    exact hread.trans (by rw [Except.map, List.append_nil])
  · intro elements program refused fault entries entry a inner after stop source h hrefused hentries
      hentry hinner ha hstop hsource
    obtain ⟨blanks, hblanks, rfl⟩ := hinner.eq_listed
    have hstops : Stops (stop :: after) := by
      rw [List.mem_pair] at hstop
      rcases hstop with rfl | rfl
      · exact stops_cons (by decide) after
      · exact Bracket.list.stops_closing after
    obtain ⟨left, hleft, hread⟩ := readInstructions_of_elements h hentries hblanks true
      (lead (true && entries.isEmpty) ++ (entry ++ stop :: after))
    rw [readInstructions_of_refused hrefused hentry hleft _ hstops] at hread
    refine ⟨whole_eq_data_iff.mpr ?_, rfl⟩
    rw [hsource, readProgram_of_bracket ha, listed_append_singleton, List.append_assoc,
      List.append_assoc, List.append_assoc, hread]
    rfl

/-- Two instructions with blanks around them, and a number that is refused where a list goes on that
is broken further on. -/
theorem decode_of_elements_integer :
    decode " [ [\"PUSH\",2] ,[\"ADD\"]\n] " = .ok [.push 2, .add] ∧
    decode "[[\"PUSH\",2], 5,]tru" = .error (.data (.invalidType (.integer 5) .instruction)) ∧
    faultMessage (.data (.invalidType (.integer 5) .instruction)) =
      "Invalid program JSON: invalid type: integer `5`, expected struct RawInstruction" := by
  have hpush : decodeInstruction "[\"PUSH\",2]" = .ok (.push 2) := by decide +kernel
  have hadd : decodeInstruction "[\"ADD\"]" = .ok .add := by decide +kernel
  have hinteger : decodeInstruction "5" =
      .error (.data (.invalidType (.integer 5) .instruction)) := rfl
  have hspace : Blanks [' '] := by
    intro c hc
    rw [List.mem_singleton.mp hc]
    decide
  have hnewline : Blanks ['\n'] := by
    intro c hc
    rw [List.mem_singleton.mp hc]
    decide
  refine ⟨?_, ?_, by decide⟩
  · exact decode_of_elements.1 ["[\"PUSH\",2]", "[\"ADD\"]"] [.push 2, .add] _ [' '] _ [' '] _
      (.cons hpush (.cons hadd .nil))
      (.cons (.mk hspace hspace) (.cons (.mk blanks_nil hnewline) .nil))
      (.some _ _) hspace hspace rfl
  · exact (decode_of_elements.2 ["[\"PUSH\",2]"] [.push 2] "5" _ _ _ [] _ "]tru".toList ',' _
      (.cons hpush .nil) hinteger (.cons (.mk blanks_nil blanks_nil) .nil) (.mk hspace blanks_nil)
      (.some _ _) blanks_nil (by decide) rfl).1

end StackMachine.Program
