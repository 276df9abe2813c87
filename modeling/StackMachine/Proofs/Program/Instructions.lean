import StackMachine.Proofs.Program.Records

/-!
# The texts of one instruction

Which texts are read as an instruction, and as which one. In the form of an object the members
`opcode` and `operand` decide, wherever they stand and however they are spelled, and in the form of
a list the first two items.
-/

namespace StackMachine.Program

open Json

/-! ## Records without keys -/

/-- Reads what stands behind the opcode of an instruction in the form of a list. -/
def readPairEnd (opcode : String) (s : List Char) : Reading Instruction.Record :=
  match startItem .list false s with
  | .error fault => .error fault
  | .ok (.close rest) => .ok (⟨opcode, none⟩, rest)
  | .ok (.item s) => (readOperand s).bind fun p => (readListEnd p.2).map (⟨opcode, p.1⟩, ·)

theorem readPair_of_item {s item : List Char} (h : startItem .list true s = .ok (.item item)) :
    readPair s = (readOpcode item).bind fun p => readPairEnd p.1 p.2 := by
  rw [readPair, h]
  cases hopcode : readOpcode item with
  | error fault => simp [hopcode, Except.bind]
  | ok pair =>
    obtain ⟨opcode, s⟩ := pair
    simp only [hopcode, Except.bind, readPairEnd]
    cases startItem .list false s with
    | error fault => rfl
    | ok start =>
      cases start with
      | close rest => rfl
      | item s => cases hoperand : readOperand s <;> simp only [hoperand]

theorem readListEnd_of_closing {b : List Char} (hb : Blanks b) (rest : List Char) :
    readListEnd (b ++ ']' :: rest) = .ok rest := by
  rw [readListEnd, skipBlanks_append_cons hb rfl]
  simp only

theorem readListEnd_of_comma {b : List Char} (hb : Blanks b) (s : List Char) :
    ∃ fault, readListEnd (b ++ ',' :: s) = .error fault := by
  rw [readListEnd, skipBlanks_append_cons hb rfl]
  by_cases hclosing : ∃ rest, skipBlanks s = ']' :: rest
  · obtain ⟨rest, hskip⟩ := hclosing
    exact ⟨.grammar .trailingComma, by simp [hskip]⟩
  · refine ⟨.grammar .trailingCharacters, ?_⟩
    simp only
    split
    · rename_i rest hskip
      exact absurd ⟨rest, hskip⟩ hclosing
    · rfl

/-- Behind an operand there is nothing else. -/
theorem finds_readListEnd {items : List Tree} {entries : List (List Char)}
    (h : RendersItems items entries) {b : List Char} (hb : Blanks b)
    (record : Instruction.Record) (rest : List Char) :
    Finds ((readListEnd (b ++ Bracket.list.remainder entries rest)).map (record, ·))
      (fun r => items = [] ∧ r = record) rest := by
  cases h with
  | nil =>
    rw [remainder_nil, Bracket.closing, readListEnd_of_closing hb]
    refine (finds_ok record rest).congr fun r => ?_
    rw [and_iff_right rfl]
  | cons _ _ _ _ =>
    obtain ⟨fault, hfault⟩ := readListEnd_of_comma hb _
    rw [remainder_cons, hfault]
    refine finds_error fun r h => ?_
    simp at h

/-- Behind an opcode there may be one operand. -/
theorem finds_readPairEnd {opcode : String} {value : Tree} {items : List Tree}
    {entries : List (List Char)} (hvalue : OpcodeTree opcode value)
    (h : RendersItems items entries) {b : List Char} (hb : Blanks b) (rest : List Char) :
    Finds (readPairEnd opcode (b ++ Bracket.list.remainder entries rest)) (Describes [value] items)
      rest := by
  cases h with
  | nil =>
    rw [readPairEnd, remainder_nil, startItem_of_closing hb]
    refine (finds_ok _ rest).congr fun record => ?_
    simp [describes_iff hvalue]
  | @cons item items a text b' entries ha hb' hitem h =>
    have hoperand := finds_readOperand hitem blanks_nil
      (stops_append hb' (stops_remainder .list entries rest))
    have hstart := hitem.skipBlanks_append ha (b' ++ Bracket.list.remainder entries rest)
    obtain ⟨c, s, rfl, hc, hclosing⟩ := hitem.start
    rw [remainder_cons, List.append_assoc, List.append_assoc, readPairEnd,
      startItem_of_next hb ⟨c, _, hstart, hclosing .list⟩, hstart]
    refine Finds.congr (Finds.bind hoperand fun operand _ =>
      finds_readListEnd h hb' ⟨opcode, operand⟩ rest) fun record => ?_
    rw [describes_iff hvalue]
    constructor
    · rintro ⟨operand, hoperand, rfl, rfl⟩
      exact Or.inr ⟨item, operand, rfl, hoperand, rfl⟩
    · rintro (⟨hnil, -⟩ | ⟨item', operand, hsingle, hoperand, rfl⟩)
      · simp at hnil
      · obtain ⟨rfl, rfl⟩ := List.cons.inj hsingle
        exact ⟨operand, hoperand, rfl, rfl⟩

/-- A list is read for its first item, which must be there, and the items behind it. -/
theorem finds_readPair {items : List Tree} {entries : List (List Char)} {inner : List Char}
    (h : RendersItems items entries) (henclosed : Encloses entries inner) (rest : List Char) :
    Finds (readPair (inner ++ Bracket.list.closing :: rest))
      (fun record => ∃ value others, items = value :: others ∧ Describes [value] others record)
      rest := by
  rcases henclosed.append_closing .list rest with
    ⟨rfl, blanks, hblanks, htext⟩ | ⟨entry, entries, rfl, htext⟩
  · cases h with
    | nil =>
      rw [htext, readPair, startItem_of_closing hblanks]
      refine finds_error fun record hrecord => ?_
      simp at hrecord
  · cases h with
    | @cons item items a text b _ ha hb hitem h =>
      have hopcode := finds_readOpcode hitem blanks_nil
        (b ++ Bracket.list.remainder entries rest)
      have hstart := hitem.skipBlanks_append ha (b ++ Bracket.list.remainder entries rest)
      obtain ⟨c, s, rfl, hc, hclosing⟩ := hitem.start
      rw [htext, List.append_assoc, List.append_assoc,
        readPair_of_item (startItem_of_first ⟨c, _, hstart, hclosing .list⟩), hstart]
      refine Finds.congr (Finds.bind hopcode fun opcode hvalue =>
        finds_readPairEnd hvalue h hb rest) fun record => ?_
      constructor
      · rintro ⟨opcode, -, hrecord⟩
        exact ⟨item, items, rfl, hrecord⟩
      · rintro ⟨value, others, hitems, hrecord⟩
        obtain ⟨rfl, rfl⟩ := List.cons.inj hitems
        cases hrecord with
        | alone hvalue => exact ⟨_, hvalue, Describes.alone hvalue⟩
        | both hvalue hoperand => exact ⟨_, hvalue, Describes.both hvalue hoperand⟩

/-! ## Instructions -/

/-- An object is read as the record that its two fields describe. -/
theorem finds_readRecord_object {members : List (String × Tree)} {text a : List Char}
    (h : Renders (objectOf members) text) (ha : Blanks a) (rest : List Char) :
    Finds (readRecord (a ++ (text ++ rest)))
      (Describes (valuesOf "opcode" members) (valuesOf "operand" members)) rest := by
  have hskip := h.skipBlanks_append ha rest
  cases h with
  | @object _ entries inner h henclosed =>
    rw [readRecord, hskip, List.append_assoc, List.cons_append]
    exact (finds_readMembers_first h henclosed {} rest).congr fun record => makes_iff

/-- A list is read as the record that its items describe. -/
theorem finds_readRecord_list {items : List Tree} {text a : List Char}
    (h : Renders (.list items) text) (ha : Blanks a) (rest : List Char) :
    Finds (readRecord (a ++ (text ++ rest)))
      (fun record => ∃ value others, items = value :: others ∧ Describes [value] others record)
      rest := by
  have hskip := h.skipBlanks_append ha rest
  cases h with
  | @list _ entries inner h henclosed =>
    rw [readRecord, hskip, List.append_assoc, List.cons_append]
    exact finds_readPair h henclosed rest

/-- An instruction is read where a record is read that names it. -/
theorem finds_readInstruction {P : Instruction.Record → Prop} {s rest : List Char}
    (h : Finds (readRecord s) P rest) :
    Finds (readInstruction s)
      (fun instruction => ∃ record, P record ∧ Names record.opcode record.operand instruction)
      rest := by
  have hbind : readInstruction s = (readRecord s).bind fun p =>
      ((Instruction.ofRecord p.1).map fun instruction => (instruction, p.2)).mapError fun fault =>
        .data (.refused fault.message) := by
    rw [readInstruction]
    cases readRecord s with
    | error fault => rfl
    | ok pair =>
      obtain ⟨record, after⟩ := pair
      dsimp only [Except.bind]
      cases Instruction.ofRecord record <;> rfl
  rw [hbind]
  refine Finds.bind h fun record _ => ?_
  cases hmade : Instruction.ofRecord record with
  | error fault =>
    refine finds_error fun instruction hnames => ?_
    simp [ofRecord_eq_ok_iff.mpr hnames] at hmade
  | ok instruction =>
    refine (finds_ok instruction rest).congr fun instruction' => ?_
    rw [← ofRecord_eq_ok_iff, hmade, Except.ok.injEq, eq_comm]

/-- A text holds a value if the value is read from it and nothing but blanks is left. -/
theorem whole_eq_ok_iff_exists {α : Type} {read : List Char → Reading α} {source : String}
    {value : α} :
    whole read source = .ok value ↔
      ∃ rest, read source.toList = .ok (value, rest) ∧ Blanks rest := by
  rw [whole]
  constructor
  · intro h
    split at h
    · simp at h
    · rename_i value rest hread
      cases hend : expectEnd rest with
      | error fault => simp [hend, Except.map] at h
      | ok _ =>
        simp only [hend, Except.map, Except.ok.injEq] at h
        exact ⟨rest, by rw [hread, h], blanks_of_expectEnd hend⟩
  · rintro ⟨rest, hread, hrest⟩
    simp only [hread, expectEnd_of_blanks hrest, Except.map]

theorem whole_eq_ok_iff {α : Type} {read : List Char → Reading α} {P : α → Prop}
    {source : String} {b : List Char} (h : Finds (read source.toList) P b) (hb : Blanks b)
    {value : α} : whole read source = .ok value ↔ P value := by
  rw [whole_eq_ok_iff_exists]
  constructor
  · rintro ⟨rest, hread, -⟩
    exact ((h value rest).mp hread).1
  · intro hvalue
    exact ⟨b, h.eq_ok hvalue, hb⟩

/-- An object is accepted exactly if its two fields denote an instruction, and as that one. -/
theorem decodeInstruction_object_iff {members : List (String × Tree)} {source : String}
    (h : Document (objectOf members) source.toList) {instruction : Instruction} :
    decodeInstruction source = .ok instruction ↔
      Denotes (valuesOf "opcode" members) (valuesOf "operand" members) instruction := by
  generalize hsource : source.toList = s at h
  cases h with
  | @mk a text b ha hb h =>
    rw [List.append_assoc] at hsource
    refine whole_eq_ok_iff ?_ hb
    rw [hsource]
    exact finds_readInstruction (finds_readRecord_object h ha b)

/-- A list is accepted exactly if its items denote an instruction, the first one as its opcode. -/
theorem decodeInstruction_list_iff {items : List Tree} {source : String}
    (h : Document (.list items) source.toList) {instruction : Instruction} :
    decodeInstruction source = .ok instruction ↔
      ∃ value others, items = value :: others ∧ Denotes [value] others instruction := by
  generalize hsource : source.toList = s at h
  cases h with
  | @mk a text b ha hb h =>
    rw [List.append_assoc] at hsource
    have hfinds := finds_readInstruction (finds_readRecord_list h ha b)
    rw [← hsource] at hfinds
    rw [decodeInstruction, whole_eq_ok_iff hfinds hb]
    constructor
    · rintro ⟨record, ⟨value, others, hitems, hrecord⟩, hnames⟩
      exact ⟨value, others, hitems, record, hrecord, hnames⟩
    · rintro ⟨value, others, hitems, record, hrecord, hnames⟩
      exact ⟨record, ⟨value, others, hitems, hrecord⟩, hnames⟩

/-- The texts of an object that are accepted, and the instructions that they are read as; the
independence of order, spelling and other members; and the texts of a list. -/
theorem decodeInstruction_grammar :
    (∀ (members : List (String × Tree)) (source : String) (instruction : Instruction),
      Document (objectOf members) source.toList →
      (decodeInstruction source = .ok instruction ↔
        Denotes (valuesOf "opcode" members) (valuesOf "operand" members) instruction)) ∧
    (∀ (members members' : List (String × Tree)) (source source' : String)
      (instruction : Instruction),
      Document (objectOf members) source.toList → Document (objectOf members') source'.toList →
      (members.filter isField).Perm (members'.filter isField) →
      (decodeInstruction source = .ok instruction ↔
        decodeInstruction source' = .ok instruction)) ∧
    (∀ (items : List Tree) (source : String) (instruction : Instruction),
      Document (.list items) source.toList →
      (decodeInstruction source = .ok instruction ↔
        ∃ value others, items = value :: others ∧ Denotes [value] others instruction)) := by
  refine ⟨?_, ?_, ?_⟩
  · intro members source instruction h
    exact decodeInstruction_object_iff h
  · intro members members' source source' instruction h h' hperm
    have hopcodes := valuesOf_perm (Or.inl rfl) hperm
    have hoperands := valuesOf_perm (Or.inr rfl) hperm
    rw [decodeInstruction_object_iff h, decodeInstruction_object_iff h']
    constructor
    · intro hdenotes
      exact hdenotes.perm hopcodes hoperands
    · intro hdenotes
      exact hdenotes.perm hopcodes.symm hoperands.symm
  · intro items source instruction h
    exact decodeInstruction_list_iff h

section Spellings

/-- The operand of the following texts. -/
def minusFive : Tree := .number ⟨true, ['5'], none, none⟩

/-- The opcode of the following texts. -/
def pushName : Tree := .string (unitsOf "PUSH".toList)

theorem renders_minusFive : Renders minusFive ['-', '5'] :=
  .number (.mk (f := []) (e := [])
    ⟨⟨by decide, List.forall_mem_singleton.mpr (by decide)⟩, by decide⟩ .absent .absent)

theorem renders_pushName : Renders pushName ('"' :: "PUSH".toList ++ ['"']) :=
  .string (spells_of_plain (by decide))

/-- A blank before a value, and an escape in a key. -/
theorem document_escaped :
    Document (objectOf [("operand", minusFive), ("opcode", pushName)])
      "\x7b\"operand\": -5,\"\\u006fpcode\":\"PUSH\"\x7d".toList := by
  have hkey : Spells (unitsOf "opcode".toList) ("\\u006f".toList ++ "pcode".toList) :=
    .numbered (i := 0) (j := 0) (k := 6) (l := 15) (.inl rfl) (.inl rfl) (.inl rfl) (.inl rfl)
      (spells_of_plain (s := "pcode".toList) (by decide))
  have hblank : Blanks [' '] := by
    intro c hc
    rw [List.mem_singleton.mp hc]
    decide
  exact .mk blanks_nil blanks_nil (.object (.cons blanks_nil blanks_nil hblank blanks_nil
    (spells_of_plain (s := "operand".toList) (by decide)) renders_minusFive
    (.cons blanks_nil blanks_nil blanks_nil blanks_nil hkey renders_pushName .nil)) (.some _ _))

/-- The fields in another order, and a member between them. -/
theorem document_nested :
    Document (objectOf [("opcode", pushName), ("x", .list [.object []]), ("operand", minusFive)])
      "\x7b\"opcode\":\"PUSH\",\"x\":[\x7b\x7d],\"operand\":-5\x7d".toList := by
  have hnested : Renders (.list [.object []]) ['[', '\x7b', '\x7d', ']'] :=
    .list (.cons blanks_nil blanks_nil (.object .nil (.none blanks_nil)) .nil) (.some _ _)
  exact .mk blanks_nil blanks_nil (.object (.cons blanks_nil blanks_nil blanks_nil blanks_nil
    (spells_of_plain (s := "opcode".toList) (by decide)) renders_pushName
    (.cons blanks_nil blanks_nil blanks_nil blanks_nil
      (spells_of_plain (s := "x".toList) (by decide)) hnested
      (.cons blanks_nil blanks_nil blanks_nil blanks_nil
        (spells_of_plain (s := "operand".toList) (by decide)) renders_minusFive .nil)))
    (.some _ _))

theorem document_list : Document (.list [pushName, minusFive]) "[\"PUSH\",-5]".toList :=
  .mk blanks_nil blanks_nil (.list (.cons blanks_nil blanks_nil renders_pushName
    (.cons blanks_nil blanks_nil renders_minusFive .nil)) (.some _ _))

/-- Three texts of one instruction. -/
theorem decodeInstruction_grammar_push :
    decodeInstruction "\x7b\"operand\": -5,\"\\u006fpcode\":\"PUSH\"\x7d" =
      .ok (.push (-5)) ∧
    decodeInstruction "\x7b\"opcode\":\"PUSH\",\"x\":[\x7b\x7d],\"operand\":-5\x7d" =
      .ok (.push (-5)) ∧
    decodeInstruction "[\"PUSH\",-5]" = .ok (.push (-5)) := by
  have hdenotes : Denotes [pushName] [minusFive] (.push (-5)) :=
    ⟨⟨"PUSH", some (-5)⟩, .both rfl (.integer ⟨rfl, rfl, by decide, by decide⟩), .push (-5)⟩
  have hescaped := (decodeInstruction_grammar.1 _ _ _ document_escaped).mpr hdenotes
  refine ⟨hescaped, ?_, ?_⟩
  · exact (decodeInstruction_grammar.2.1 _ _ _ _ _ document_escaped document_nested
      (List.Perm.swap _ _ _)).mp hescaped
  · exact (decodeInstruction_grammar.2.2 _ _ _ document_list).mpr ⟨_, _, rfl, hdenotes⟩

end Spellings

end StackMachine.Program
