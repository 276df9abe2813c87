import StackMachine.Proofs.Arithmetic

/-!
# Division without traps

The quotient is computed on words, whose own operations do not always give the exact result: they
wrap around, or trap. Main statement: the quotient is the floor of the exact one wherever that is a
word, and none of the operations on the way is carried out where it would wrap or trap
(`floorDiv_exact`).

To say the latter, `floorDiv?` is the same computation with operations that give nothing in such a
case.
-/

namespace StackMachine.Arithmetic

/-! ## Floors -/

/-- The integer `q` is the floor of the quotient of `a` and `b`: what remains lies between zero and
the divisor. -/
def IsFloor (a b q : Int) : Prop :=
  ∃ r, a = q * b + r ∧ (0 < b → 0 ≤ r ∧ r < b) ∧ (b < 0 → b < r ∧ r ≤ 0)

theorem isFloor_of_neg {a b q : Int} (h : IsFloor (-a) (-b) q) : IsFloor a b q := by
  obtain ⟨r, heq, hpos, hneg⟩ := h
  rw [Int.mul_neg] at heq
  refine ⟨-r, by omega, fun hb => ?_, fun hb => ?_⟩
  · obtain ⟨hlow, hhigh⟩ := hneg (by omega)
    omega
  · obtain ⟨hlow, hhigh⟩ := hpos (by omega)
    omega

theorem isFloor_iff_of_pos {b : Int} (hb : 0 < b) (a q : Int) :
    IsFloor a b q ↔ q = a.fdiv b := by
  rw [Int.fdiv_eq_ediv_of_nonneg a (Int.le_of_lt hb)]
  constructor
  · rintro ⟨r, heq, hpos, -⟩
    have hsum : r + b * q = a := by rw [heq, Int.mul_comm b q, Int.add_comm]
    exact ((Int.ediv_emod_unique hb).mpr ⟨hsum, hpos hb⟩).1.symm
  · rintro rfl
    refine ⟨a % b, (Int.ediv_mul_add_emod a b).symm, fun _ => ?_, fun hneg => absurd hneg ?_⟩
    · exact ⟨Int.emod_nonneg a (Int.ne_of_gt hb), Int.emod_lt_of_pos a hb⟩
    · exact Int.not_lt.mpr (Int.le_of_lt hb)

/-- A quotient has one floor. -/
theorem isFloor_iff {b : Int} (hb : b ≠ 0) (a q : Int) : IsFloor a b q ↔ q = a.fdiv b := by
  rcases Int.lt_or_gt_of_ne hb with hneg | hpos
  · -- the quotient of the opposite numbers is the same
    have hopposite := isFloor_iff_of_pos (b := -b) (by omega) (-a) q
    rw [Int.neg_fdiv_neg] at hopposite
    rw [← hopposite]
    refine ⟨fun h => isFloor_of_neg ?_, isFloor_of_neg⟩
    rwa [Int.neg_neg, Int.neg_neg]
  · exact isFloor_iff_of_pos hpos a q

/-! ## Operations that may not be carried out -/

/-- The word for an exact result, if there is one. -/
def wordOf? (n : Int) : Option Int64 :=
  if Fits n then some (Int64.ofInt n) else none

/-- The quotient rounded toward zero. -/
def quotient? (a b : Int64) : Option Int64 :=
  if b = 0 then none else wordOf? (a.toInt.tdiv b.toInt)

/-- What the quotient rounded toward zero leaves. There is none where there is no quotient. -/
def remainder? (a b : Int64) : Option Int64 :=
  (quotient? a b).bind fun _ => wordOf? (a.toInt.tmod b.toInt)

/-- The word below. -/
def below? (a : Int64) : Option Int64 :=
  wordOf? (a.toInt - 1)

/-- The quotient rounded down, by operations that may not be carried out where they give nothing.
The first one is tested. -/
def floorDiv? (a b : Int64) : Option (Except Fault Int64) :=
  if b = 0 then
    some (.error .divisionByZero)
  else
    match quotient? a b with
    | none => some (.error .integerOverflow)
    | some quotient => do
      let remainder ← remainder? a b
      if remainder ≠ 0 ∧ decide (a < 0) ≠ decide (b < 0) then
        return .ok (← below? quotient)
      else
        return .ok quotient

theorem wordOf?_toInt (a : Int64) : wordOf? a.toInt = some a := by
  rw [wordOf?, if_pos (fits_toInt a), Int64.ofInt_toInt]

section Operations

variable {a b : Int64}

theorem quotient?_eq_div (hb : b ≠ 0) (h : ¬ (a = Int64.minValue ∧ b = -1)) :
    quotient? a b = some (a / b) := by
  rw [quotient?, if_neg hb, ← toInt_div h, wordOf?_toInt]

theorem remainder?_eq_mod (hb : b ≠ 0) (h : ¬ (a = Int64.minValue ∧ b = -1)) :
    remainder? a b = some (a % b) := by
  rw [remainder?, quotient?_eq_div hb h, Option.bind_some, ← Int64.toInt_mod, wordOf?_toInt]

theorem below?_div (hb : b ≠ 0) (h : ¬ (a = Int64.minValue ∧ b = -1)) (hmod : a % b ≠ 0) :
    below? (a / b) = some (a / b - 1) := by
  rw [below?, ← toInt_sub_one (fits_div_sub_one hb h hmod), wordOf?_toInt]

/-- Nothing is carried out that may not be. -/
theorem floorDiv?_eq_some (a b : Int64) : floorDiv? a b = some (floorDiv a b) := by
  unfold floorDiv? floorDiv
  by_cases hb : b = 0
  · rw [if_pos hb, if_pos hb]
  rw [if_neg hb, if_neg hb]
  by_cases hmin : a = Int64.minValue ∧ b = -1
  · have hnone : quotient? a b = none := by
      rw [hmin.1, hmin.2]
      decide
    rw [if_pos hmin, hnone]
  · rw [if_neg hmin, quotient?_eq_div hb hmin, remainder?_eq_mod hb hmin]
    by_cases hc : a % b ≠ 0 ∧ decide (a < 0) ≠ decide (b < 0)
    · simp only [Option.bind_eq_bind, Option.bind_some, if_pos hc, below?_div hb hmin hc.1]
      rfl
    · simp only [Option.bind_eq_bind, Option.bind_some, if_neg hc]
      rfl

end Operations

/-! ## The quotient of words -/

/-- A quotient that is a word is the floor of the exact one. -/
theorem toInt_eq_fdiv_of_floorDiv {a b q : Int64} (h : floorDiv a b = .ok q) :
    b ≠ 0 ∧ q.toInt = a.toInt.fdiv b.toInt := by
  rw [floorDiv_eq_narrow] at h
  by_cases hb : b = 0
  · simp [hb] at h
  · rw [if_neg hb, narrow] at h
    split at h
    · rename_i hfits
      rw [← Except.ok.inj h, toInt_ofInt_of_fits hfits]
      exact ⟨hb, rfl⟩
    · simp at h

/-- **Division is exact.** The quotient of words is a fault of its own for a zero divisor, an
overflow for the least word and minus one, and otherwise the word for the floor of the exact
quotient. It is found without any operation that wraps or traps: the remainder and the correction
are formed only where they are words, and then they are exact. -/
theorem floorDiv_exact (a b : Int64) :
    (floorDiv a b = .error .divisionByZero ↔ b = 0) ∧
    (floorDiv a b = .error .integerOverflow ↔ a = Int64.minValue ∧ b = -1) ∧
    (b ≠ 0 → ¬ (a = Int64.minValue ∧ b = -1) →
      (∃ q, floorDiv a b = .ok q ∧ ∀ n, IsFloor a.toInt b.toInt n ↔ n = q.toInt) ∧
      (Fits (a.toInt.tmod b.toInt) ∧ (a % b).toInt = a.toInt.tmod b.toInt) ∧
      (a % b ≠ 0 →
        Fits ((a / b).toInt - 1) ∧ (a / b - 1).toInt = a.toInt.tdiv b.toInt - 1)) ∧
    floorDiv? a b = some (floorDiv a b) := by
  refine ⟨?_, ?_, fun hb hmin => ⟨?_, ?_, fun hmod => ?_⟩, floorDiv?_eq_some a b⟩
  · unfold floorDiv
    repeat' split
    all_goals simp [*]
  · unfold floorDiv
    repeat' split
    all_goals simp_all
  · have hok : ∃ q, floorDiv a b = .ok q := by
      rw [floorDiv, if_neg hb, if_neg hmin]
      split <;> exact ⟨_, rfl⟩
    obtain ⟨q, hq⟩ := hok
    refine ⟨q, hq, fun n => ?_⟩
    rw [(toInt_eq_fdiv_of_floorDiv hq).2]
    exact isFloor_iff (toInt_ne_zero hb) a.toInt n
  · rw [← Int64.toInt_mod]
    exact ⟨fits_toInt (a % b), rfl⟩
  · have hfits := fits_div_sub_one hb hmin hmod
    exact ⟨hfits, by rw [toInt_sub_one hfits, toInt_div hmin]⟩

/-- The least word divided by three, an inexact quotient of unlike signs. -/
theorem floorDiv_exact_least :
    ∃ q, floorDiv Int64.minValue 3 = .ok q ∧ q.toInt = -3074457345618258603 ∧
      Fits (Int64.minValue.toInt.tmod 3) := by
  obtain ⟨-, -, hword, -⟩ := floorDiv_exact Int64.minValue 3
  obtain ⟨⟨q, hq, hfloor⟩, ⟨hfits, -⟩, -⟩ := hword (by decide) (by decide)
  refine ⟨q, hq, ?_, hfits⟩
  exact ((hfloor (-3074457345618258603)).mp ⟨1, by decide, by decide, by decide⟩).symm

end StackMachine.Arithmetic
