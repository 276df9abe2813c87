import StackMachine.Arithmetic

/-!
# Words and integers

What the operations on words say about the integers that the words stand for. The quotient is the
only one that is computed on words: `floorDiv_eq_narrow` shows that it is the floor of the exact
quotient, tested once like the other three results.
-/

namespace StackMachine.Arithmetic

/-! ## Words as integers -/

/-- Every word stands for an integer that fits. -/
theorem fits_toInt (a : Int64) : Fits a.toInt := by
  have hlow := a.le_toInt
  have hhigh := a.toInt_lt
  unfold Fits
  omega

theorem toInt_ofInt_of_fits {n : Int} (hn : Fits n) : (Int64.ofInt n).toInt = n := by
  unfold Fits at hn
  exact Int64.toInt_ofInt_of_le (by omega) (by omega)

theorem narrow_of_fits {n : Int} (hn : Fits n) : narrow n = .ok (Int64.ofInt n) := if_pos hn

theorem narrow_toInt (a : Int64) : narrow a.toInt = .ok a := by
  rw [narrow_of_fits (fits_toInt a), Int64.ofInt_toInt]

/-! ## Quotients -/

/-- Where the division is inexact, there is room for the correction below the quotient. -/
theorem fits_tdiv_sub_one {a b : Int} (ha : Fits a) (hb : a.tmod b ≠ 0) (hb0 : b ≠ 0) :
    Fits (a.tdiv b - 1) := by
  have hone : b ≠ 1 := by
    rintro rfl
    simp at hb
  have hneg : b ≠ -1 := by
    rintro rfl
    simp [Int.tmod_neg] at hb
  have hhalf : (a.tdiv b).natAbs ≤ a.natAbs / 2 := by
    rw [Int.natAbs_tdiv]
    exact Nat.div_le_div_left (by omega) (by decide)
  unfold Fits at *
  omega

/-- The floor of a quotient is the truncated quotient, or one less where truncation rounded up. -/
theorem fdiv_eq_correction {a b : Int} (hb : b ≠ 0) :
    a.fdiv b =
      if a.tmod b ≠ 0 ∧ decide (a < 0) ≠ decide (b < 0) then a.tdiv b - 1 else a.tdiv b := by
  have hmod : a.tmod b = 0 ↔ b ∣ a := Int.dvd_iff_tmod_eq_zero.symm
  rw [Int.fdiv_eq_tdiv]
  simp only [ne_eq, hmod]
  by_cases hdvd : b ∣ a
  · simp [hdvd]
  · rcases Int.lt_or_le a 0 with ha | ha <;> rcases Int.lt_or_gt_of_ne hb with hb | hb
    · simp [hdvd, ha, hb, Int.not_le.mpr, Int.sign_eq_neg_one_of_neg]
    · simp [hdvd, ha, hb, Int.not_le.mpr, Int.not_lt.mpr, Int.le_of_lt, Int.sign_eq_one_of_pos]
    · simp [hdvd, ha, hb, Int.not_le.mpr, Int.not_lt.mpr]
    · simp [hdvd, ha, Int.not_lt.mpr, Int.le_of_lt hb]

/-! ## Quotients of words -/

section Words

variable {a b : Int64}

theorem toInt_ne_zero (hb : b ≠ 0) : b.toInt ≠ 0 :=
  fun h => hb (Int64.toInt_inj.mp (by simpa using h))

/-- The machine's quotient is the truncated one, unless that is no word. -/
theorem toInt_div (h : ¬ (a = Int64.minValue ∧ b = -1)) :
    (a / b).toInt = a.toInt.tdiv b.toInt := by
  by_cases hb : b = -1
  · exact Int64.toInt_div_of_ne_left a b fun ha => h ⟨ha, hb⟩
  · exact Int64.toInt_div_of_ne_right a b hb

/-- The machine's remainder is zero exactly where the exact one is. -/
theorem mod_eq_zero_iff : a % b = 0 ↔ a.toInt.tmod b.toInt = 0 := by
  rw [← Int64.toInt_mod, ← Int64.toInt_inj]
  rfl

/-- Where a quotient that is no word is out of the question, an inexact one has a word below it. -/
theorem fits_div_sub_one (hb : b ≠ 0) (h : ¬ (a = Int64.minValue ∧ b = -1)) (hmod : a % b ≠ 0) :
    Fits ((a / b).toInt - 1) := by
  rw [toInt_div h]
  exact fits_tdiv_sub_one (fits_toInt a) (mt mod_eq_zero_iff.mpr hmod) (toInt_ne_zero hb)

theorem toInt_sub_one (h : Fits (a.toInt - 1)) : (a - 1).toInt = a.toInt - 1 := by
  unfold Fits at h
  rw [Int64.toInt_sub]
  exact Int.bmod_eq_of_le (by simp; omega) (by simp; omega)

end Words

/-- The quotient of words is the floor of the exact quotient, if that is a word. -/
theorem floorDiv_eq_narrow (a b : Int64) :
    floorDiv a b =
      if b = 0 then .error .divisionByZero else narrow (a.toInt.fdiv b.toInt) := by
  unfold floorDiv
  by_cases hb : b = 0
  · rw [if_pos hb, if_pos hb]
  rw [if_neg hb, if_neg hb]
  by_cases hmin : a = Int64.minValue ∧ b = -1
  · rw [if_pos hmin, hmin.1, hmin.2, narrow, if_neg (by decide)]
  rw [if_neg hmin]
  have hcondition : (a % b ≠ 0 ∧ decide (a < 0) ≠ decide (b < 0)) ↔
      (a.toInt.tmod b.toInt ≠ 0 ∧ decide (a.toInt < 0) ≠ decide (b.toInt < 0)) := by
    simp only [ne_eq, mod_eq_zero_iff, Int64.lt_iff_toInt_lt]
    rfl
  rw [fdiv_eq_correction (toInt_ne_zero hb)]
  by_cases hc : a % b ≠ 0 ∧ decide (a < 0) ≠ decide (b < 0)
  · have hfits := fits_div_sub_one hb hmin hc.1
    rw [if_pos hc, if_pos (hcondition.mp hc), ← toInt_div hmin, ← toInt_sub_one hfits,
      narrow_toInt]
  · rw [if_neg hc, if_neg (mt hcondition.mpr hc), ← toInt_div hmin, narrow_toInt]

/-! ## Faults -/

/-- A fault of an operator that has its operands. -/
def IsNumeric (fault : Fault) : Prop :=
  fault = .divisionByZero ∨ fault = .integerOverflow

theorem isNumeric_of_narrow {n : Int} {fault : Fault} (h : narrow n = .error fault) :
    IsNumeric fault := by
  unfold narrow at h
  split at h
  · simp at h
  · exact Or.inr (Except.error.inj h).symm

theorem isNumeric_of_floorDiv {a b : Int64} {fault : Fault} (h : floorDiv a b = .error fault) :
    IsNumeric fault := by
  rw [floorDiv_eq_narrow] at h
  split at h
  · exact Or.inl (Except.error.inj h).symm
  · exact isNumeric_of_narrow h

end StackMachine.Arithmetic
