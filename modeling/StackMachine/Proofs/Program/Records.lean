import StackMachine.Program.Document
import StackMachine.Proofs.Arithmetic
import StackMachine.Proofs.Json.Passing
import StackMachine.Proofs.Program.Meaning

/-!
# Reading one instruction

What the readers of fields, members and records find in texts of the grammar. A record is read from
left to right into fields that are filled once; the fields that are left at the end depend on the
values of the members `opcode` and `operand` alone.
-/

namespace StackMachine.Program

open Json

/-! ## Field values -/

/-- A string is read as the opcode that it writes, and nothing else is read as an opcode. -/
theorem finds_readOpcode {tree : Tree} {text a : List Char} (h : Renders tree text)
    (ha : Blanks a) (rest : List Char) :
    Finds (readOpcode (a ++ (text ++ rest))) (OpcodeTree · tree) rest := by
  have hskip := h.skipBlanks_append ha rest
  cases h with
  | @string units body h =>
    have hmap : readOpcode (a ++ ('"' :: body ++ ['"'] ++ rest)) =
        (readString (body ++ '"' :: rest)).map fun p => (String.ofList p.1, p.2) := by
      rw [readOpcode, hskip, List.append_assoc, List.cons_append, List.singleton_append]
      cases hread : readString (body ++ '"' :: rest) <;> simp only [hread, Except.map]
    rw [hmap]
    refine (finds_string h rest).congr fun opcode => ?_
    rw [OpcodeTree, Tree.string.injEq, eq_comm]
  | null | trueWord | falseWord | list _ _ | object _ _ =>
    rw [readOpcode, hskip]
    refine finds_error fun opcode hopcode => ?_
    simp [OpcodeTree] at hopcode
  | number h =>
    obtain ⟨c, s, rfl, hc⟩ := h.start
    have hquote : c ≠ '"' := ne_of_numberStart hc (by decide)
    rw [readOpcode, hskip]
    split
    · simp_all
    · simp_all
    · refine finds_error fun opcode hopcode => ?_
      simp [OpcodeTree] at hopcode

/-- An integer is taken for the operand that it is. -/
theorem operandOf_eq_ok_iff {number : Number} {operand : Int64} :
    operandOf number = .ok operand ↔ number = .integer operand.toInt := by
  have hfits := Arithmetic.fits_toInt operand
  unfold Arithmetic.Fits at hfits
  cases number with
  | floating value => simp [operandOf]
  | integer value =>
    rw [operandOf, Number.integer.injEq]
    split
    · rename_i hvalue
      rw [Except.ok.injEq]
      constructor
      · rintro rfl
        exact (Arithmetic.toInt_ofInt_of_fits hvalue).symm
      · rintro rfl
        exact Int64.ofInt_toInt operand
    · simp only [reduceCtorEq, false_iff]
      omega

theorem operandTree_number_iff {literal : Literal} (hw : WholeText literal.whole)
    {operand : Option Int64} :
    OperandTree operand (.number literal) ↔ ∃ number, literal.value = .ok number ∧
      ∃ n, operandOf number = .ok n ∧ operand = some n := by
  have hiff : ∀ n : Int64, literal.value = .ok (.integer n.toInt) ↔
      literal.IsInteger n.toInt := by
    intro n
    have hfits := Arithmetic.fits_toInt n
    unfold Arithmetic.Fits at hfits
    exact value_eq_integer_iff hw (by omega)
  constructor
  · intro h
    cases h with
    | @integer _ n h => exact ⟨_, (hiff n).mpr h, n, operandOf_eq_ok_iff.mpr rfl, rfl⟩
  · rintro ⟨number, hvalue, n, hnumber, rfl⟩
    rw [operandOf_eq_ok_iff] at hnumber
    rw [hnumber] at hvalue
    exact OperandTree.integer ((hiff n).mp hvalue)

/-- What starts like a number is read for its value. -/
theorem readOperand_of_numberStart {a : List Char} (ha : Blanks a) {c : Char}
    (hc : c = '-' ∨ c.isDigit = true) (s : List Char) :
    readOperand (a ++ c :: s) =
      (readNumber (c :: s)).bind fun p => (operandOf p.1).map fun n => (some n, p.2) := by
  have hnull : c ≠ 'n' := ne_of_numberStart hc (by decide)
  rw [readOperand, skipBlanks_append_cons ha (isBlank_of_numberStart hc)]
  split
  · simp_all
  · simp_all
  · rename_i heq
    obtain ⟨rfl, rfl⟩ := List.cons.inj heq
    rw [if_pos hc]
    cases readNumber (c :: s) with
    | error fault => rfl
    | ok pair =>
      dsimp only [Except.bind]
      cases operandOf pair.1 <;> rfl

/-- A `null` or an integer that a word can hold is read as an operand, and nothing else is. -/
theorem finds_readOperand {tree : Tree} {text a rest : List Char} (h : Renders tree text)
    (ha : Blanks a) (hrest : Stops rest) :
    Finds (readOperand (a ++ (text ++ rest))) (OperandTree · tree) rest := by
  have hskip := h.skipBlanks_append ha rest
  cases h with
  | null =>
    rw [readOperand, hskip]
    refine (finds_ok none rest).congr fun operand => ?_
    constructor
    · rintro rfl
      exact OperandTree.null
    · rintro ⟨⟩
      rfl
  | @number literal _ h =>
    have hbind : readOperand (a ++ (text ++ rest)) =
        (readNumber (text ++ rest)).bind fun p => (operandOf p.1).map fun n => (some n, p.2) := by
      obtain ⟨c, s, rfl, hc⟩ := h.start
      exact readOperand_of_numberStart ha hc (s ++ rest)
    rw [hbind, readNumber_of_numberText h hrest]
    refine ((finds_map_ok literal.value id rest).bind fun number _ =>
      finds_map_ok (operandOf number) some rest).congr fun operand => ?_
    rw [operandTree_number_iff h.wholeText]
    simp
  | trueWord | falseWord | list _ _ | object _ _ | string =>
    rw [readOperand, hskip]
    refine finds_error fun opcode hopcode => ?_
    cases hopcode

/-! ## Members -/

/-- What a member does to the fields: a field is filled once, and other members fill none. -/
def Fields.Takes (fields : Fields) (key : String) (value : Tree) (fields' : Fields) : Prop :=
  if key = "opcode" then
    fields.opcode = none ∧
      ∃ opcode, OpcodeTree opcode value ∧ fields' = { fields with opcode := some opcode }
  else if key = "operand" then
    fields.operand = none ∧
      ∃ operand, OperandTree operand value ∧ fields' = { fields with operand := some operand }
  else fields' = fields

theorem readOpcodeField_of_none {fields : Fields} (h : fields.opcode = none) {b : List Char}
    (hb : Blanks b) (s : List Char) :
    readOpcodeField fields (b ++ ':' :: s) =
      (readOpcode s).map fun p => ({ fields with opcode := some p.1 }, p.2) := by
  rw [readOpcodeField, if_neg (by simp [h]), readColon_of_blanks hb]
  cases hread : readOpcode s <;> simp only [hread, Except.map]

theorem readOperandField_of_none {fields : Fields} (h : fields.operand = none) {b : List Char}
    (hb : Blanks b) (s : List Char) :
    readOperandField fields (b ++ ':' :: s) =
      (readOperand s).map fun p => ({ fields with operand := some p.1 }, p.2) := by
  rw [readOperandField, if_neg (by simp [h]), readColon_of_blanks hb]
  cases hread : readOperand s <;> simp only [hread, Except.map]

section Members

variable {key : String} {tree : Tree} {text b c rest : List Char}

theorem finds_readOpcodeField (fields : Fields) (h : Renders tree text) (hb : Blanks b)
    (hc : Blanks c) :
    Finds (readOpcodeField fields (b ++ ':' :: (c ++ (text ++ rest))))
      (fields.Takes "opcode" tree) rest := by
  by_cases hset : fields.opcode = none
  · rw [readOpcodeField_of_none hset hb]
    refine ((finds_readOpcode h hc rest).map
      fun opcode => ({ fields with opcode := some opcode } : Fields)).congr fun fields' => ?_
    simp [Fields.Takes, hset]
  · rw [readOpcodeField, if_pos (by simpa [Option.isSome_iff_ne_none] using hset)]
    refine finds_error fun fields' hfields => ?_
    simp [Fields.Takes, hset] at hfields

theorem finds_readOperandField (fields : Fields) (h : Renders tree text) (hb : Blanks b)
    (hc : Blanks c) (hrest : Stops rest) :
    Finds (readOperandField fields (b ++ ':' :: (c ++ (text ++ rest))))
      (fields.Takes "operand" tree) rest := by
  by_cases hset : fields.operand = none
  · rw [readOperandField_of_none hset hb]
    refine ((finds_readOperand h hc hrest).map
      fun operand => ({ fields with operand := some operand } : Fields)).congr fun fields' => ?_
    simp [Fields.Takes, hset]
  · rw [readOperandField, if_pos (by simpa [Option.isSome_iff_ne_none] using hset)]
    refine finds_error fun fields' hfields => ?_
    simp [Fields.Takes, hset] at hfields

theorem finds_skipField (fields : Fields) (h : Renders tree text) (hb : Blanks b)
    (hc : Blanks c) (hrest : Stops rest) :
    Finds (skipField fields (b ++ ':' :: (c ++ (text ++ rest)))) (fun fields' => fields' = fields)
      rest := by
  have hskip : skipField fields (b ++ ':' :: (c ++ (text ++ rest))) = .ok (fields, rest) := by
    rw [skipField, readColon_of_blanks hb]
    simp only [skipValue_of_renders h hc hrest]
  rw [hskip]
  exact finds_ok fields rest

/-- A member is read for what it does to the fields. -/
theorem finds_readMember (fields : Fields) {body : List Char}
    (hkey : Spells (unitsOf key.toList) body) (h : Renders tree text) (hb : Blanks b)
    (hc : Blanks c) (hrest : Stops rest) :
    Finds (readMember fields ('"' :: (body ++ '"' :: (b ++ ':' :: (c ++ (text ++ rest))))))
      (fields.Takes key tree) rest := by
  have hread := (finds_readKey hkey (b ++ ':' :: (c ++ (text ++ rest)))).eq_ok rfl
  rw [readMember, hread]
  show Finds (readField fields key _) _ _
  unfold readField
  by_cases hopcode : key = "opcode"
  · rw [if_pos hopcode, hopcode]
    exact finds_readOpcodeField fields h hb hc
  · rw [if_neg hopcode]
    by_cases hoperand : key = "operand"
    · rw [if_pos hoperand, hoperand]
      exact finds_readOperandField fields h hb hc hrest
    · rw [if_neg hoperand]
      refine (finds_skipField fields h hb hc hrest).congr fun fields' => ?_
      rw [Fields.Takes, if_neg hopcode, if_neg hoperand]

end Members

/-! ## Records with keys -/

/-- What members do to the fields one after the other. -/
def Fields.TakesAll : Fields → List (String × Tree) → Fields → Prop
  | fields, [], fields' => fields' = fields
  | fields, (key, value) :: members, fields' =>
    ∃ next, fields.Takes key value next ∧ next.TakesAll members fields'

theorem readMembers_of_close {fields : Fields} {first : Bool} {s rest : List Char}
    (h : startItem .object first s = .ok (.close rest)) :
    readMembers fields first s = fields.record.map (·, rest) := by
  rw [readMembers]
  split <;> simp_all

theorem readMembers_of_item {fields : Fields} {first : Bool} {s member : List Char}
    (h : startItem .object first s = .ok (.item member)) :
    readMembers fields first s =
      (readMember fields member).bind fun p => readMembers p.1 false p.2 := by
  rw [readMembers]
  split
  · simp_all
  · simp_all
  · rename_i member' heq
    obtain rfl : member = member' := by simp_all
    split <;> simp_all [Except.bind]

/-- The record that members make of the fields that are read before them. -/
def Fields.Makes (fields : Fields) (members : List (String × Tree))
    (record : Instruction.Record) : Prop :=
  ∃ fields', fields.TakesAll members fields' ∧ fields'.record = .ok record

theorem finds_readMembers_close {fields : Fields} {first : Bool} {s rest : List Char}
    (h : startItem .object first s = .ok (.close rest)) :
    Finds (readMembers fields first s) (fields.Makes []) rest := by
  rw [readMembers_of_close h]
  refine (finds_map_ok fields.record id rest).congr fun record => ?_
  simp [Fields.Makes, Fields.TakesAll, eq_comm]

theorem finds_readMembers_item {fields : Fields} {first : Bool} {key : String} {value : Tree}
    {members : List (String × Tree)} {s member after rest : List Char}
    (hstart : startItem .object first s = .ok (.item member))
    (hmember : Finds (readMember fields member) (fields.Takes key value) after)
    (hmembers : ∀ next : Fields, Finds (readMembers next false after) (next.Makes members) rest) :
    Finds (readMembers fields first s) (fields.Makes ((key, value) :: members)) rest := by
  rw [readMembers_of_item hstart]
  refine (hmember.bind fun next _ => hmembers next).congr fun record => ?_
  constructor
  · rintro ⟨next, hnext, fields', hall, hrecord⟩
    exact ⟨fields', ⟨next, hnext, hall⟩, hrecord⟩
  · rintro ⟨fields', ⟨next, hnext, hall⟩, hrecord⟩
    exact ⟨next, hnext, fields', hall, hrecord⟩

/-- The members that are left are read one after the other. -/
theorem finds_readMembers {members : List (String × Tree)} {entries : List (List Char)}
    (h : RendersMembers (members.map fun (name, value) => (unitsOf name.toList, value)) entries)
    {d : List Char} (hd : Blanks d) (fields : Fields) (rest : List Char) :
    Finds (readMembers fields false (d ++ Bracket.object.remainder entries rest))
      (fields.Makes members) rest := by
  induction members generalizing entries d fields with
  | nil =>
    cases h with
    | nil => exact finds_readMembers_close (startItem_of_closing hd false rest)
  | cons member members ih =>
    obtain ⟨name, value⟩ := member
    cases h with
    | @cons _ _ _ a body b c text d' entries ha hb hc hd' hkey hvalue h =>
      rw [remainder_cons, member_append]
      refine finds_readMembers_item ?_ (finds_readMember fields hkey hvalue hb hc
        (stops_append hd' (stops_remainder .object entries rest))) fun next => ih h hd' next
      rw [startItem_of_next hd ⟨'"', _, skipBlanks_append_cons ha rfl _, by decide⟩,
        skipBlanks_append_cons ha rfl]

/-- All members between the brackets are read one after the other. -/
theorem finds_readMembers_first {members : List (String × Tree)} {entries : List (List Char)}
    {inner : List Char}
    (h : RendersMembers (members.map fun (name, value) => (unitsOf name.toList, value)) entries)
    (henclosed : Encloses entries inner) (fields : Fields) (rest : List Char) :
    Finds (readMembers fields true (inner ++ Bracket.object.closing :: rest))
      (fields.Makes members) rest := by
  rcases henclosed.append_closing .object rest with
    ⟨rfl, blanks, hblanks, htext⟩ | ⟨entry, others, rfl, htext⟩
  · cases members with
    | nil =>
      rw [htext]
      exact finds_readMembers_close (startItem_of_closing hblanks true rest)
    | cons member members => cases h
  · cases members with
    | nil => cases h
    | cons member members =>
      obtain ⟨name, value⟩ := member
      cases h with
      | @cons _ _ _ a body b c text d _ ha hb hc hd hkey hvalue h =>
        rw [htext, member_append]
        refine finds_readMembers_item ?_ (finds_readMember fields hkey hvalue hb hc
          (stops_append hd (stops_remainder .object others rest)))
          fun next => finds_readMembers h hd next rest
        rw [startItem_of_first ⟨'"', _, skipBlanks_append_cons ha rfl _, by decide⟩,
          skipBlanks_append_cons ha rfl]

/-! ## What the fields hold at the end -/

/-- What values put into a slot that takes one of them. -/
def Fills {α : Type} (P : α → Tree → Prop) : Option α → List Tree → Option α → Prop
  | slot, [], result => result = slot
  | none, value :: values, result => ∃ a, P a value ∧ Fills P (some a) values result
  | some _, _ :: _, _ => False

section Fills

variable {α : Type} {P : α → Tree → Prop} {values : List Tree} {result : Option α}

theorem fills_cons_iff {slot : Option α} {value : Tree} :
    Fills P slot (value :: values) result ↔
      slot = none ∧ ∃ a, P a value ∧ Fills P (some a) values result := by
  cases slot <;> simp [Fills]

theorem fills_some_iff {a : α} :
    Fills P (some a) values result ↔ values = [] ∧ result = some a := by
  cases values <;> simp [Fills]

theorem fills_none_iff :
    Fills P none values result ↔
      (values = [] ∧ result = none) ∨
        ∃ value a, values = [value] ∧ P a value ∧ result = some a := by
  cases values with
  | nil => simp [Fills]
  | cons value values =>
    simp only [fills_cons_iff, fills_some_iff, true_and]
    constructor
    · rintro ⟨a, ha, rfl, rfl⟩
      exact Or.inr ⟨value, a, rfl, ha, rfl⟩
    · rintro (⟨h, -⟩ | ⟨value', a, h, ha, rfl⟩)
      · simp at h
      · obtain ⟨rfl, rfl⟩ := List.cons.inj h
        exact ⟨a, ha, rfl, rfl⟩

end Fills

/-- The fields are filled apart from each other, each by the members with its key. -/
theorem takesAll_iff {fields fields' : Fields} {members : List (String × Tree)} :
    fields.TakesAll members fields' ↔
      Fills OpcodeTree fields.opcode (valuesOf "opcode" members) fields'.opcode ∧
      Fills OperandTree fields.operand (valuesOf "operand" members) fields'.operand := by
  induction members generalizing fields with
  | nil =>
    obtain ⟨opcode, operand⟩ := fields
    obtain ⟨opcode', operand'⟩ := fields'
    simp [Fields.TakesAll, valuesOf, Fills]
  | cons member members ih =>
    obtain ⟨key, value⟩ := member
    -- a member has one of the two keys, and fills that field, or neither
    have hkeys : "opcode" ≠ "operand" := by decide
    simp only [Fields.TakesAll, Fields.Takes, ih, valuesOf_cons]
    by_cases hopcode : key = "opcode"
    · subst hopcode
      simp only [if_true, if_neg hkeys, fills_cons_iff]
      constructor
      · rintro ⟨next, ⟨hempty, opcode, hvalue, rfl⟩, hopcodes, hoperands⟩
        exact ⟨⟨hempty, opcode, hvalue, hopcodes⟩, hoperands⟩
      · rintro ⟨⟨hempty, opcode, hvalue, hopcodes⟩, hoperands⟩
        exact ⟨_, ⟨hempty, opcode, hvalue, rfl⟩, hopcodes, hoperands⟩
    · by_cases hoperand : key = "operand"
      · subst hoperand
        simp only [if_true, if_neg hopcode, fills_cons_iff]
        constructor
        · rintro ⟨next, ⟨hempty, operand, hvalue, rfl⟩, hopcodes, hoperands⟩
          exact ⟨hopcodes, hempty, operand, hvalue, hoperands⟩
        · rintro ⟨hopcodes, hempty, operand, hvalue, hoperands⟩
          exact ⟨_, ⟨hempty, operand, hvalue, rfl⟩, hopcodes, hoperands⟩
      · simp only [if_neg hopcode, if_neg hoperand, exists_eq_left]

/-- The record is made of what the values of the two fields write. -/
theorem makes_iff {members : List (String × Tree)} {record : Instruction.Record} :
    Fields.Makes {} members record ↔
      Describes (valuesOf "opcode" members) (valuesOf "operand" members) record := by
  simp only [Fields.Makes, takesAll_iff, fills_none_iff]
  constructor
  · rintro ⟨⟨opcode, operand⟩, ⟨hopcode, hoperand⟩, hrecord⟩
    rcases hopcode with ⟨-, rfl⟩ | ⟨value, opcode, hvalues, hvalue, rfl⟩
    · simp [Fields.record] at hrecord
    · obtain rfl : ⟨opcode, operand.join⟩ = record := Except.ok.inj hrecord
      rw [hvalues]
      rcases hoperand with ⟨hnone, rfl⟩ | ⟨operandValue, operand, hsome, hoperand, rfl⟩
      · rw [hnone]
        exact Describes.alone hvalue
      · rw [hsome]
        exact Describes.both hvalue hoperand
  · intro h
    generalize valuesOf "opcode" members = opcodes at h ⊢
    generalize valuesOf "operand" members = operands at h ⊢
    cases h with
    | alone h => exact ⟨⟨_, none⟩, ⟨Or.inr ⟨_, _, rfl, h, rfl⟩, Or.inl ⟨rfl, rfl⟩⟩, rfl⟩
    | both h hoperand =>
      exact ⟨⟨_, some _⟩, ⟨Or.inr ⟨_, _, rfl, h, rfl⟩, Or.inr ⟨_, _, rfl, hoperand, rfl⟩⟩, rfl⟩

end StackMachine.Program
