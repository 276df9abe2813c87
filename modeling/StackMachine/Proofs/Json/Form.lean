import StackMachine.Proofs.Json.Extension

/-!
# Faults of form

The readers of tokens know nothing about the value that is wanted. So what they find wrong is the
form of the text: it breaks the grammar, or it ends too early. Only a reader that wants a value of
some kind finds a fault in a well-formed value.
-/

namespace StackMachine.Json

/-- A reading that finds no fault but in the form of the text. -/
def Formal {α : Type} (reading : Except Fault α) : Prop :=
  ∀ fault : DataFault, reading ≠ .error (.data fault)

section Formal

variable {α β : Type} {reading : Except Fault α}

theorem formal_ok (a : α) : Formal (.ok a) := by
  intro fault
  simp

theorem formal_grammar (fault : SyntaxFault) :
    Formal (.error (.grammar fault) : Except Fault α) := by
  intro fault
  simp

theorem formal_ended (fault : EndFault) : Formal (.error (.ended fault) : Except Fault α) := by
  intro fault
  simp

/-- The fault of a reading may be passed on. -/
theorem Formal.error (h : Formal reading) {fault : Fault} (hreading : reading = .error fault) :
    Formal (.error fault : Except Fault β) := by
  rintro fault' ⟨⟩
  exact h fault' hreading

theorem Formal.map (h : Formal reading) (f : α → β) : Formal (reading.map f) := by
  cases hreading : reading with
  | error fault => exact h.error hreading
  | ok a => exact formal_ok (f a)

end Formal

/-! ## Words and strings -/

theorem formal_readWord (word s : List Char) : Formal (readWord word s) := by
  fun_induction readWord word s with
  | case1 => exact formal_ok _
  | case2 => exact formal_ended _
  | case3 word _ s ih => exact ih
  | case4 => exact formal_grammar _

theorem formal_readHex (s : List Char) : Formal (readHex s) := by
  unfold readHex
  split
  · split
    · exact formal_ok _
    · exact formal_grammar _
  · split
    · exact formal_ended _
    · exact formal_grammar _

theorem formal_readLowSurrogate (high : Nat) (s : List Char) :
    Formal (readLowSurrogate high s) := by
  unfold readLowSurrogate
  split
  · exact formal_ended _
  · exact formal_ended _
  · split
    · rename_i hhex
      exact (formal_readHex _).error hhex
    · split
      · exact formal_ok _
      · exact formal_grammar _
  · exact formal_grammar _

theorem formal_readEscape (s : List Char) : Formal (readEscape s) := by
  unfold readEscape
  split
  · exact formal_ended _
  · unfold readNumbered
    split
    · rename_i hhex
      exact (formal_readHex _).error hhex
    · split
      · exact formal_grammar _
      · split
        · exact formal_readLowSurrogate _ _
        · exact formal_ok _
  · split
    · exact formal_ok _
    · exact formal_grammar _

theorem formal_skipEscape (s : List Char) : Formal (skipEscape s) := by
  unfold skipEscape
  split
  · exact formal_ended _
  · exact (formal_readHex _).map _
  · split
    · exact formal_ok _
    · exact formal_grammar _

theorem formal_readString (s : List Char) : Formal (readString s) := by
  fun_induction readString s with
  | case1 => exact formal_ended _
  | case2 => exact formal_ok _
  | case3 s fault hescape => exact (formal_readEscape s).error hescape
  | case4 s c rest hescape ih => exact ih.map _
  | case5 => exact formal_grammar _
  | case6 c s hquote hslash hlow ih => exact ih.map _

theorem formal_skipString (s : List Char) : Formal (skipString s) := by
  fun_induction skipString s with
  | case1 => exact formal_ended _
  | case2 => exact formal_ok _
  | case3 s fault hescape => exact (formal_skipEscape s).error hescape
  | case4 s rest hescape ih => exact ih
  | case5 => exact formal_grammar _
  | case6 c s hquote hslash hlow ih => exact ih

/-! ## Numbers -/

section Literals

variable {atEnd : Fault} (hend : ∀ fault, atEnd ≠ .data fault)

include hend

theorem formal_readDigits (s : List Char) : Formal (readDigits atEnd s) := by
  unfold readDigits
  split
  · cases s with
    | nil =>
      rintro fault ⟨⟩
      exact hend fault rfl
    | cons c s => exact formal_grammar _
  · exact formal_ok _

theorem formal_readWhole (s : List Char) : Formal (readWhole atEnd s) := by
  unfold readWhole
  split
  · exact formal_grammar _
  · exact formal_readDigits hend s

theorem formal_readFraction (s : List Char) : Formal (readFraction atEnd s) := by
  unfold readFraction
  split
  · exact (formal_readDigits hend _).map _
  · exact formal_ok _

theorem formal_readSigned (s : List Char) : Formal (readSigned atEnd s) := by
  unfold readSigned
  split
  all_goals exact (formal_readDigits hend _).map _

theorem formal_readExponent (s : List Char) : Formal (readExponent atEnd s) := by
  unfold readExponent
  split
  · exact (formal_readSigned hend _).map _
  · exact (formal_readSigned hend _).map _
  · exact formal_ok _

theorem formal_readUnsigned (negative : Bool) (s : List Char) :
    Formal (readUnsigned atEnd negative s) := by
  unfold readUnsigned
  split
  · rename_i hwhole
    exact (formal_readWhole hend _).error hwhole
  · split
    · rename_i hfraction
      exact (formal_readFraction hend _).error hfraction
    · split
      · rename_i hexponent
        exact (formal_readExponent hend _).error hexponent
      · exact formal_ok _

theorem formal_readLiteral (s : List Char) : Formal (readLiteral atEnd s) := by
  unfold readLiteral
  split
  · exact formal_readUnsigned hend true _
  · exact formal_readUnsigned hend false _

end Literals

theorem formal_scale (magnitude : Decimal.Magnitude) (exponent : Int) :
    Formal (scale magnitude exponent) := by
  fun_induction scale magnitude exponent with
  | case1 => exact formal_ok _
  | case2 => exact formal_grammar _
  | case3 => exact formal_grammar _
  | case4 => exact formal_ok _
  | case5 => exact formal_ok _
  | case6 => exact formal_ok _
  | case7 magnitude exponent _ _ _ _ ih => exact ih

theorem Literal.formal_value (literal : Literal) : Formal literal.value := by
  unfold Literal.value
  dsimp only
  split
  · split
    · exact formal_ok _
    · split
      · exact formal_ok _
      · exact formal_ok _
  · exact Formal.map (formal_scale _ _) _

theorem formal_readNumber (s : List Char) : Formal (readNumber s) := by
  unfold readNumber
  split
  · rename_i hread
    exact (formal_readLiteral (by simp) s).error hread
  · rename_i literal _ _
    exact literal.formal_value.map _

theorem formal_skipNumber (s : List Char) : Formal (skipNumber s) :=
  (formal_readLiteral (by simp) s).map _

/-! ## Values that are passed over -/

theorem formal_readColon (s : List Char) : Formal (readColon s) := by
  unfold readColon
  split
  · exact formal_ended _
  · exact formal_ok _
  · exact formal_grammar _

theorem formal_skipKey (s : List Char) : Formal (skipKey s) := by
  unfold skipKey
  split
  · exact formal_ended _
  · split
    · rename_i hskip
      exact (formal_skipString _).error hskip
    · exact formal_readColon _
  · exact formal_grammar _

theorem Bracket.formal_skipLead (bracket : Bracket) (s : List Char) :
    Formal (bracket.skipLead s) := by
  cases bracket with
  | list => exact formal_ok s
  | object => exact formal_skipKey s

theorem formal_resume (brackets : List Bracket) (s : List Char) : Formal (resume brackets s) := by
  induction brackets generalizing s with
  | nil => exact formal_ok _
  | cons bracket brackets ih =>
    unfold resume
    split
    · exact formal_ended _
    · split
      · exact (bracket.formal_skipLead _).map _
      · split
        · exact ih _
        · exact formal_grammar _

theorem formal_enter (bracket : Bracket) (brackets : List Bracket) (s : List Char) :
    Formal (enter bracket brackets s) := by
  unfold enter
  split
  · exact formal_ended _
  · split
    · exact formal_resume brackets _
    · exact (bracket.formal_skipLead _).map _

theorem formal_skipStart (brackets : List Bracket) (s : List Char) :
    Formal (skipStart brackets s) := by
  unfold skipStart
  dsimp only
  split
  · exact formal_ended _
  · exact formal_enter .list brackets _
  · exact formal_enter .object brackets _
  · split
    · rename_i hskip
      exact (formal_skipString _).error hskip
    · exact formal_resume brackets _
  · split
    · rename_i hskip
      exact (formal_readWord _ _).error hskip
    · exact formal_resume brackets _
  · split
    · rename_i hskip
      exact (formal_readWord _ _).error hskip
    · exact formal_resume brackets _
  · split
    · rename_i hskip
      exact (formal_readWord _ _).error hskip
    · exact formal_resume brackets _
  · split
    · split
      · rename_i hskip
        exact (formal_skipNumber _).error hskip
      · exact formal_resume brackets _
    · exact formal_grammar _

theorem formal_skipValues (brackets : List Bracket) (s : List Char) :
    Formal (skipValues brackets s) := by
  fun_induction skipValues brackets s with
  | case1 brackets s fault hstart => exact (formal_skipStart brackets s).error hstart
  | case2 => exact formal_ok _
  | case3 brackets s inner rest hstart ih => exact ih

/-! ## Items -/

theorem formal_startItem (bracket : Bracket) (first : Bool) (s : List Char) :
    Formal (startItem bracket first s) := by
  unfold startItem
  split
  · exact formal_ended _
  · split
    · exact formal_ok _
    · split
      · exact formal_ok _
      · split
        · split
          · exact formal_ended _
          · split
            · exact formal_grammar _
            · exact formal_ok _
        · exact formal_grammar _

theorem formal_readKey (s : List Char) : Formal (readKey s) := by
  unfold readKey
  split
  · split
    · rename_i hread
      exact (formal_readString _).error hread
    · exact formal_ok _
  · exact formal_grammar _

theorem formal_expectEnd (s : List Char) : Formal (expectEnd s) := by
  unfold expectEnd
  split
  · exact formal_ok _
  · exact formal_grammar _

/-! ## Values of another kind -/

/-- A value that is not of the wanted kind is found to be so in every longer text. -/
theorem mismatch_append_of_data {wanted : Wanted} {s u : List Char} {fault : DataFault}
    (h : mismatch wanted s = .data fault) (hu : Stops u) :
    mismatch wanted (s ++ u) = .data fault := by
  unfold mismatch at h
  dsimp only at h
  split at h
  · split at h
    · rename_i hread
      rw [h] at hread
      exact absurd hread (formal_readWord _ _ fault)
    · rename_i hread
      simp only [List.cons_append, mismatch, readWord_append_of_ok hread, h]
  · split at h
    · rename_i hread
      rw [h] at hread
      exact absurd hread (formal_readWord _ _ fault)
    · rename_i hread
      simp only [List.cons_append, mismatch, readWord_append_of_ok hread, h]
  · split at h
    · rename_i hread
      rw [h] at hread
      exact absurd hread (formal_readWord _ _ fault)
    · rename_i hread
      simp only [List.cons_append, mismatch, readWord_append_of_ok hread, h]
  · simpa only [List.cons_append, mismatch] using h
  · simpa only [List.cons_append, mismatch] using h
  · split at h
    · rename_i hread
      rw [h] at hread
      exact absurd hread (formal_readString _ fault)
    · rename_i hread
      simp only [List.cons_append, mismatch, readString_append_of_ok hread, h]
  · split at h
    · rename_i hstart
      split at h
      · rename_i hread
        rw [h] at hread
        exact absurd hread (formal_readNumber _ fault)
      · rename_i hread
        have hlonger := readNumber_append_of_ok hread fun _ => hu
        rw [List.cons_append] at hlonger ⊢
        simp [mismatch, hlonger, hstart, h]
      · rename_i hread
        have hlonger := readNumber_append_of_ok hread fun _ => hu
        rw [List.cons_append] at hlonger ⊢
        simp [mismatch, hlonger, hstart, h]
    · simp at h
  · simp at h

end StackMachine.Json
