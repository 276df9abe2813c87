import StackMachine.Text.Lowercase

/-!
# Words in lower case

Names are compared in lower case, and some of them are lower-cased twice on the way. For words of
ASCII letters the second time makes no difference (`lower_eq_self`), no point and no bracket comes
out of a name without one (`mem_of_mem_lower`), and no ASCII letter out of a name without capitals
that does not have it (`mem_or_isCapital_of_mem_lower`). Behind all of them is one look through the
table of capital letters (`letters_capitals`).
-/

namespace StackMachine.Text

/-! ## The table -/

/-- The letters of a run, each with its lower-case letter. -/
def lettersOf : Nat × Nat × Nat × Int → List (Nat × Nat)
  | (first, last, stride, shift) =>
    (List.range ((last - first) / stride + 1)).map fun k =>
      (first + k * stride, ((first + k * stride : Nat) + shift).toNat)

/-- A code point stays as it is, or is a letter of one of the runs. -/
theorem lowerCode_cases (runs : List (Nat × Nat × Nat × Int)) (code : Nat) :
    lowerCode runs code = code ∨ ∃ run ∈ runs, (code, lowerCode runs code) ∈ lettersOf run := by
  induction runs with
  | nil => exact Or.inl rfl
  | cons run runs ih =>
    obtain ⟨first, last, stride, shift⟩ := run
    rw [lowerCode]
    by_cases hbefore : code < first
    · rw [if_pos hbefore]
      exact Or.inl rfl
    rw [if_neg hbefore]
    by_cases hinside : code ≤ last ∧ (code - first) % stride = 0
    · rw [if_pos hinside]
      refine Or.inr ⟨_, List.mem_cons_self, List.mem_map.mpr ⟨(code - first) / stride, ?_, ?_⟩⟩
      · have hle : (code - first) / stride ≤ (last - first) / stride :=
          Nat.div_le_div_right (by omega)
        exact List.mem_range.mpr (by omega)
      · have hcode : first + (code - first) / stride * stride = code := by
          have hdiv := Nat.div_add_mod' (code - first) stride
          omega
        rw [hcode]
    · rw [if_neg hinside]
      rcases ih with hsame | ⟨run, hrun, hmem⟩
      · exact Or.inl hsame
      · exact Or.inr ⟨run, List.mem_cons_of_mem _ hrun, hmem⟩

/-- The code points of letters that become ASCII letters: the capital ones, the Kelvin sign and the
capital dotted `i`. -/
def IsCapital (code : Nat) : Prop :=
  0x41 ≤ code ∧ code ≤ 0x5a ∨ code = 0x212a ∨ code = 0x130

instance (code : Nat) : Decidable (IsCapital code) :=
  inferInstanceAs (Decidable (_ ∨ _))

/-- In the table, no lower-case letter is such a capital, a point or a bracket, and the ones in
ASCII belong to such capitals. -/
theorem letters_capitals :
    ∀ run ∈ capitals, ∀ letter ∈ lettersOf run,
      (Char.ofNat letter.2).toNat = letter.2 ∧ ¬ IsCapital letter.2 ∧
        letter.2 ≠ '.'.toNat ∧ letter.2 ≠ '['.toNat ∧
        (letter.2 < 0x80 → IsCapital letter.1) := by
  decide +kernel

/-- Such capitals do not stay as they are. -/
theorem not_isCapital_of_lowerCode {code : Nat} (h : lowerCode capitals code = code) :
    ¬ IsCapital code ∨ code = 0x130 := by
  have hletters : ∀ k < 26, lowerCode capitals (0x41 + k) ≠ 0x41 + k := by decide
  by_cases hdotted : code = 0x130
  · exact Or.inr hdotted
  · refine Or.inl ?_
    rintro (⟨hfirst, hlast⟩ | rfl | hdotted')
    · obtain ⟨k, rfl⟩ := Nat.exists_eq_add_of_le hfirst
      exact hletters k (by omega) h
    · exact absurd h (by decide +kernel)
    · exact hdotted hdotted'

/-! ## Characters -/

/-- A character of a lower-case form is no capital. It is the character itself, or it is no point or
bracket, and in ASCII only if the character is a capital. -/
theorem lowerChar_spec {c x : Char} (h : x ∈ lowerChar c) :
    ¬ IsCapital x.toNat ∧
      (x = c ∨ x ≠ '.' ∧ x ≠ '[' ∧ (x.toNat < 0x80 → IsCapital c.toNat)) := by
  rw [lowerChar] at h
  by_cases hdotted : c.toNat = 0x130
  · have hc : IsCapital c.toNat := Or.inr (Or.inr hdotted)
    rw [if_pos hdotted, List.mem_cons, List.mem_singleton] at h
    rcases h with rfl | rfl
    · exact ⟨by decide, Or.inr ⟨by decide, by decide, fun _ => hc⟩⟩
    · exact ⟨by decide, Or.inr ⟨by decide, by decide, fun _ => hc⟩⟩
  rw [if_neg hdotted, List.mem_singleton] at h
  rcases lowerCode_cases capitals c.toNat with hsame | ⟨run, hrun, hletter⟩
  · rw [hsame, Char.ofNat_toNat] at h
    rw [h]
    exact ⟨(not_isCapital_of_lowerCode hsame).resolve_right hdotted, Or.inl rfl⟩
  · obtain ⟨hvalid, hcapital, hpoint, hbracket, hascii⟩ := letters_capitals run hrun _ hletter
    have hx : x.toNat = lowerCode capitals c.toNat := by rw [h, hvalid]
    refine ⟨hx ▸ hcapital, Or.inr ⟨?_, ?_, fun hlt => hascii (hx ▸ hlt)⟩⟩
    · rintro rfl
      exact hpoint hx.symm
    · rintro rfl
      exact hbracket hx.symm

theorem lowerSigma_spec (before after : List Char) :
    ¬ IsCapital (lowerSigma before after).toNat ∧ lowerSigma before after ≠ '.' ∧
      lowerSigma before after ≠ '[' ∧ ¬ (lowerSigma before after).toNat < 0x80 := by
  unfold lowerSigma
  split <;> decide

/-! ## Texts -/

/-- A character of a text in lower case is no capital; a point or a bracket was there before. -/
theorem lowerAfter_spec {before s : List Char} {x : Char} (h : x ∈ lowerAfter before s) :
    ¬ IsCapital x.toNat ∧ (x ∈ s ∨ x ≠ '.' ∧ x ≠ '[') := by
  induction s generalizing before with
  | nil => simp [lowerAfter] at h
  | cons c rest ih =>
    rw [lowerAfter, List.mem_append] at h
    rcases h with h | h
    · split at h
      · rw [List.mem_singleton.mp h]
        obtain ⟨hcapital, hpoint, hbracket, -⟩ := lowerSigma_spec before rest
        exact ⟨hcapital, Or.inr ⟨hpoint, hbracket⟩⟩
      · obtain ⟨hcapital, rfl | ⟨hpoint, hbracket, -⟩⟩ := lowerChar_spec h
        · exact ⟨hcapital, Or.inl List.mem_cons_self⟩
        · exact ⟨hcapital, Or.inr ⟨hpoint, hbracket⟩⟩
    · obtain ⟨hcapital, hmem | hne⟩ := ih h
      · exact ⟨hcapital, Or.inl (List.mem_cons_of_mem _ hmem)⟩
      · exact ⟨hcapital, Or.inr hne⟩

/-- A character in ASCII of a text in lower case was there before, or some capital was. -/
theorem mem_or_isCapital_of_mem_lower {s : List Char} {x : Char} (hx : x.toNat < 0x80)
    (h : x ∈ lower s) : x ∈ s ∨ ∃ c ∈ s, IsCapital c.toNat := by
  rw [lower] at h
  generalize ([] : List Char) = before at h
  induction s generalizing before with
  | nil => simp [lowerAfter] at h
  | cons c rest ih =>
    rw [lowerAfter, List.mem_append] at h
    simp only [List.mem_cons, exists_eq_or_imp]
    rcases h with h | h
    · split at h
      · -- a sigma has no lower-case form in ASCII
        rw [List.mem_singleton.mp h] at hx
        exact absurd hx (lowerSigma_spec before rest).2.2.2
      · obtain ⟨-, rfl | ⟨-, -, hascii⟩⟩ := lowerChar_spec h
        · exact Or.inl (Or.inl rfl)
        · exact Or.inr (Or.inl (hascii hx))
    · exact (ih _ h).imp Or.inr Or.inr

/-- A text without such capitals whose lower-case form is in ASCII is in lower case. -/
theorem lowerAfter_eq_self {before s : List Char} (hs : ∀ c ∈ s, ¬ IsCapital c.toNat)
    (h : ∀ x ∈ lowerAfter before s, x.toNat < 0x80) : lowerAfter before s = s := by
  induction s generalizing before with
  | nil => rfl
  | cons c rest ih =>
    rw [List.forall_mem_cons] at hs
    rw [lowerAfter] at h ⊢
    rw [List.forall_mem_append] at h
    rw [ih hs.2 h.2]
    have hfirst := h.1
    by_cases hsigma : c.toNat = 0x3a3
    · -- a sigma has no lower-case form in ASCII
      rw [if_pos hsigma] at hfirst
      exact absurd (hfirst _ (List.mem_singleton.mpr rfl)) (lowerSigma_spec before rest).2.2.2
    · have hdotted : c.toNat ≠ 0x130 := fun hc => hs.1 (Or.inr (Or.inr hc))
      rw [if_neg hsigma] at hfirst ⊢
      rw [lowerChar, if_neg hdotted] at hfirst ⊢
      have hmem : Char.ofNat (lowerCode capitals c.toNat) ∈ lowerChar c := by
        rw [lowerChar, if_neg hdotted]
        exact List.mem_singleton.mpr rfl
      obtain ⟨-, hsame | ⟨-, -, hascii⟩⟩ := lowerChar_spec hmem
      · rw [hsame]
        rfl
      · exact absurd (hascii (hfirst _ (List.mem_singleton.mpr rfl))) hs.1

/-- What was lower-cased already becomes no word of ASCII letters that it is not. -/
theorem lower_eq_self {s t : List Char} (hs : ∀ c ∈ s, c ∈ lower t)
    (h : ∀ x ∈ lower s, x.toNat < 0x80) : lower s = s :=
  lowerAfter_eq_self (fun c hc => (lowerAfter_spec (hs c hc)).1) h

/-- Points and brackets of a text in lower case were there before. -/
theorem mem_of_mem_lower {s : List Char} {x : Char} (hx : x = '.' ∨ x = '[') (h : x ∈ lower s) :
    x ∈ s := by
  obtain ⟨-, hmem | ⟨hpoint, hbracket⟩⟩ := lowerAfter_spec h
  · exact hmem
  · rcases hx with rfl | rfl
    · exact absurd rfl hpoint
    · exact absurd rfl hbracket

end StackMachine.Text
