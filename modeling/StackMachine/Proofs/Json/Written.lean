import StackMachine.Json.Value
import StackMachine.Proofs.Json.Tokens

/-!
# Written texts belong to the grammar

What is written for a value is a text of the grammar, and a text of the tree that one expects. Lists
and objects are written without blanks; the statement on objects takes the trees of the members as
given, so that it serves members of any shape.
-/

namespace StackMachine.Json

/-! ## Strings -/

theorem hexDigit_spec {n : Nat} (hn : n < 16) : HexDigit (hexDigit n) n := by
  have hall : ∀ k : Fin 16, "0123456789abcdef".toList[k.val]? = some (hexDigit k.val) := by decide
  exact Or.inl (hall ⟨n, hn⟩)

/-- A written character spells the character. -/
theorem spells_writeChar (c : Char) {units : List Nat} {body : List Char} (h : Spells units body) :
    Spells (codeUnits c ++ units) (writeChar c ++ body) := by
  unfold writeChar
  split
  · exact Spells.short (by decide) h
  · exact Spells.short (by decide) h
  · exact Spells.short (by decide) h
  · exact Spells.short (by decide) h
  · exact Spells.short (by decide) h
  · exact Spells.short (by decide) h
  · exact Spells.short (by decide) h
  · rename_i hquote hslash _ _ _ _ _
    split
    · rename_i hlow
      have hc : c.toNat < 32 := hlow
      have hunits : codeUnits c = [((0 * 16 + 0) * 16 + c.toNat / 16) * 16 + c.toNat % 16] := by
        rw [codeUnits_of_lt (by omega), List.cons.injEq]
        exact ⟨by omega, rfl⟩
      rw [hunits]
      exact Spells.numbered (Or.inl rfl) (Or.inl rfl) (hexDigit_spec (by omega))
        (hexDigit_spec (by omega)) h
    · rename_i hlow
      exact Spells.plain (Char.not_lt.mp hlow) hquote hslash h

theorem spells_flatMap_writeChar (s : List Char) : Spells (unitsOf s) (s.flatMap writeChar) := by
  induction s with
  | nil => exact Spells.nil
  | cons c s ih =>
    rw [List.flatMap_cons, unitsOf_cons]
    exact spells_writeChar c ih

theorem renders_writeString (s : String) : Renders (.string (unitsOf s.toList)) (writeString s) :=
  Renders.string (spells_flatMap_writeChar s.toList)

/-! ## Integers -/

/-- The literal of an integer. -/
def integerLiteral (n : Int) : Literal :=
  ⟨decide (n < 0), Decimal.digitsOf n.natAbs, none, none⟩

/-- The digits of a number begin with a zero only if they are a single zero. -/
theorem wholeText_digitsOf (n : Nat) : WholeText (Decimal.digitsOf n) := by
  unfold Decimal.digitsOf
  refine ⟨⟨Nat.toDigits_ne_nil, fun c hc => ?_⟩, ?_⟩
  · exact Nat.isDigit_of_mem_toDigits (by decide) (by decide) hc
  · induction n using Nat.strongRecOn with
    | _ n ih =>
      intro hzero
      by_cases hn : n < 10
      · have hdigit : ∀ k : Fin 10, k.val.digitChar = '0' → k.val = 0 := by decide
        rw [Nat.toDigits_of_lt_base hn, List.head?_cons, Option.some.injEq] at hzero
        obtain rfl : n = 0 := hdigit ⟨n, hn⟩ hzero
        rfl
      · -- the digits before the last one are those of a positive number
        have hhead : (Nat.toDigits 10 (n / 10)).head? = some '0' := by
          obtain ⟨c, s, hcons⟩ := List.exists_cons_of_ne_nil
            (Nat.toDigits_ne_nil (n := n / 10) (b := 10))
          rw [Nat.toDigits_of_base_le (by decide) (by omega), hcons] at hzero
          rw [hcons]
          exact hzero
        have hleading := ih (n / 10) (by omega) hhead
        have hvalue := Nat.ofDigitChars_ten_toDigits (n := n / 10)
        rw [hleading] at hvalue
        have : Nat.ofDigitChars 10 ['0'] 0 = 0 := by decide
        omega

theorem isInteger_integerLiteral (n : Int) : (integerLiteral n).IsInteger n := by
  have hvalue := Decimal.ofDigits_digitsOf n.natAbs
  refine ⟨rfl, rfl, ?_, ?_⟩
  · rintro ⟨hneg, hzero⟩
    simp only [integerLiteral, decide_eq_true_eq] at hneg hzero
    rw [hzero] at hvalue
    have : Decimal.ofDigits ['0'] = 0 := by decide
    omega
  · simp only [integerLiteral, hvalue, decide_eq_true_eq]
    split <;> omega

theorem numberText_writeInteger (n : Int) : NumberText (integerLiteral n) (writeInteger n) := by
  have htext : writeInteger n = (if decide (n < 0) then ['-'] else []) ++
      Decimal.digitsOf n.natAbs ++ [] ++ [] := by
    unfold writeInteger
    by_cases hn : n < 0 <;> simp [hn]
  rw [htext]
  exact NumberText.mk (wholeText_digitsOf _) .absent .absent

theorem renders_writeInteger (n : Int) :
    Renders (.number (integerLiteral n)) (writeInteger n) :=
  Renders.number (numberText_writeInteger n)

/-! ## Lists and objects -/

theorem writeItems_cons (item : Value) (items : List Value) :
    Value.writeItems (item :: items) =
      item.write ++ (items.map Value.write).flatMap fun next => ',' :: next := by
  induction items generalizing item with
  | nil => simp [Value.writeItems]
  | cons next items ih =>
    rw [Value.writeItems, ih, List.map_cons, List.flatMap_cons, List.cons_append]

theorem encloses_writeItems (items : List Value) :
    Encloses (items.map Value.write) (Value.writeItems items) := by
  cases items with
  | nil => exact Encloses.none blanks_nil
  | cons item items =>
    rw [writeItems_cons]
    exact Encloses.some _ _

/-- The text of a member as it is written. -/
def writeMember (member : String × Value) : List Char :=
  writeString member.1 ++ ':' :: member.2.write

theorem writeMembers_cons (member : String × Value) (members : List (String × Value)) :
    Value.writeMembers (member :: members) =
      writeMember member ++ (members.map writeMember).flatMap fun next => ',' :: next := by
  induction members generalizing member with
  | nil => simp [Value.writeMembers, writeMember]
  | cons next members ih =>
    obtain ⟨name, value⟩ := member
    rw [Value.writeMembers, ih, List.map_cons, List.flatMap_cons, List.cons_append]
    rfl

theorem encloses_writeMembers (members : List (String × Value)) :
    Encloses (members.map writeMember) (Value.writeMembers members) := by
  cases members with
  | nil => exact Encloses.none blanks_nil
  | cons member members =>
    rw [writeMembers_cons]
    exact Encloses.some _ _

section Brackets

variable {α : Type} (value : α → Value) (tree : α → Tree)

theorem rendersMembers_map {members : List (String × α)}
    (h : ∀ member ∈ members, Renders (tree member.2) (value member.2).write) :
    RendersMembers (members.map fun (name, a) => (unitsOf name.toList, tree a))
      (members.map fun (name, a) => writeMember (name, value a)) := by
  induction members with
  | nil => exact RendersMembers.nil
  | cons member members ih =>
    obtain ⟨name, a⟩ := member
    have hmember := RendersMembers.cons blanks_nil blanks_nil blanks_nil blanks_nil
      (spells_flatMap_writeChar name.toList) (h (name, a) List.mem_cons_self)
      (ih fun m hm => h m (List.mem_cons_of_mem _ hm))
    rw [List.map_cons, List.map_cons]
    simpa [writeMember, writeString] using hmember

/-- An object of values is written as the object of their trees. -/
theorem renders_object {members : List (String × α)}
    (h : ∀ member ∈ members, Renders (tree member.2) (value member.2).write) :
    Renders (.object (members.map fun (name, a) => (unitsOf name.toList, tree a)))
      (Value.object (members.map fun (name, a) => (name, value a))).write := by
  have hinside := encloses_writeMembers (members.map fun (name, a) => (name, value a))
  rw [List.map_map] at hinside
  exact Renders.object (rendersMembers_map value tree h) hinside

end Brackets

end StackMachine.Json
