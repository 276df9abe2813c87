import StackMachine.Arithmetic
import StackMachine.Decimal.Layout
import StackMachine.Decimal.Parse

/-!
# Numbers in texts

The digits that are written for a number write it (`ofDigits_digitsOf`), and more digits write no
smaller number (`le_appendDigits`). So an integer of 64 bits is read back from its usual text
(`integer?_toString`). A text without digits is no number, unless it is one of the words for
infinity and for what is no number (`integer?_of_no_digit`, `float?_of_no_digit`).
-/

namespace StackMachine.Decimal

/-! ## Digits -/

theorem le_appendDigits (n : Nat) (digits : List Char) : n ≤ appendDigits n digits := by
  induction digits generalizing n with
  | nil => exact Nat.le_refl n
  | cons digit digits ih =>
    have hrest := ih (n * 10 + (digit.toNat - '0'.toNat))
    rw [appendDigits, List.foldl_cons]
    rw [appendDigits] at hrest
    omega

theorem ofDigits_digitsOf (n : Nat) : ofDigits (digitsOf n) = n := by
  have hstep : (fun m (digit : Char) => m * 10 + (digit.toNat - '0'.toNat)) =
      fun m digit => 10 * m + (digit.toNat - '0'.toNat) := by
    funext m digit
    rw [Nat.mul_comm]
  rw [ofDigits, appendDigits, hstep]
  exact Nat.ofDigitChars_ten_toDigits

theorem isDigit_of_mem_digitsOf {n : Nat} {c : Char} (h : c ∈ digitsOf n) : c.isDigit :=
  Nat.isDigit_of_mem_toDigits (by decide) (by decide) h

theorem digits?_digitsOf (n : Nat) : digits? (digitsOf n) = some n := by
  have hdigits : (digitsOf n).all Char.isDigit :=
    List.all_eq_true.mpr fun _ => isDigit_of_mem_digitsOf
  rw [digits?, if_pos ⟨Nat.toDigits_ne_nil, hdigits⟩, ofDigits_digitsOf]

/-! ## Integers -/

theorem splitSign_of_isDigit {s : List Char} (h : ∀ c ∈ s, c.isDigit) :
    splitSign s = (false, s) := by
  unfold splitSign
  split
  · exact absurd (h '-' List.mem_cons_self) (by decide)
  · exact absurd (h '+' List.mem_cons_self) (by decide)
  · rfl

theorem toList_toString (n : Int) :
    (toString n).toList = (if n < 0 then ['-'] else []) ++ digitsOf n.natAbs := by
  rw [Int.toString_eq_repr, Int.repr_eq_if]
  by_cases hn : n < 0
  · have habs : (-n).toNat = n.natAbs := by omega
    rw [if_neg (by omega), if_pos hn, String.toList_append, Nat.toList_repr, habs]
    rfl
  · have habs : n.toNat = n.natAbs := by omega
    rw [if_pos (by omega), if_neg hn, Nat.toList_repr, habs]
    rfl

/-- An integer of 64 bits is read back from its text. -/
theorem integer?_toString {n : Int} (hn : Arithmetic.Fits n) :
    integer? (toString n).toList = some n := by
  have hsplit : splitSign (toString n).toList = (decide (n < 0), digitsOf n.natAbs) := by
    rw [toList_toString]
    by_cases hneg : n < 0
    · rw [if_pos hneg, decide_eq_true hneg]
      rfl
    · rw [if_neg hneg, decide_eq_false hneg, List.nil_append,
        splitSign_of_isDigit fun _ => isDigit_of_mem_digitsOf]
  have hvalue : (if decide (n < 0) then -(n.natAbs : Int) else n.natAbs) = n := by
    by_cases hneg : n < 0
    · rw [if_pos (decide_eq_true hneg)]
      omega
    · rw [if_neg (by simpa using hneg)]
      omega
  unfold Arithmetic.Fits at hn
  unfold integer?
  rw [hsplit]
  dsimp only
  rw [digits?_digitsOf]
  dsimp only
  rw [hvalue, if_pos (by omega)]

/-! ## Texts without digits -/

theorem mem_of_mem_splitSign {s : List Char} {c : Char} (h : c ∈ (splitSign s).2) : c ∈ s := by
  unfold splitSign at h
  split at h
  · exact List.mem_cons_of_mem _ h
  · exact List.mem_cons_of_mem _ h
  · exact h

theorem integer?_of_no_digit {s : List Char} (h : ∀ c ∈ s, c.isDigit = false) :
    integer? s = none := by
  have hnone : digits? (splitSign s).2 = none := by
    refine if_neg ?_
    rintro ⟨hne, hall⟩
    obtain ⟨c, hc⟩ := List.exists_mem_of_ne_nil _ hne
    have hdigit := List.all_eq_true.mp hall c hc
    rw [h c (mem_of_mem_splitSign hc)] at hdigit
    exact absurd hdigit (by decide)
  unfold integer?
  dsimp only
  rw [hnone]

theorem takeWhile_of_no_digit {s : List Char} (h : ∀ c ∈ s, c.isDigit = false) :
    s.takeWhile Char.isDigit = [] := by
  cases s with
  | nil => rfl
  | cons c s => rw [List.takeWhile_cons_of_neg (by simp [h c List.mem_cons_self])]

theorem float?_of_no_digit {s : List Char} (h : ∀ c ∈ s, c.isDigit = false)
    (hword : word? (splitSign s).2 = none) : float? s = none := by
  have hunsigned : ∀ c ∈ (splitSign s).2, c.isDigit = false :=
    fun c hc => h c (mem_of_mem_splitSign hc)
  have hnone : magnitude? (splitSign s).2 = none := by
    generalize (splitSign s).2 = unsigned at hunsigned
    have hdrop : unsigned.dropWhile Char.isDigit = unsigned := by
      have happend := List.takeWhile_append_dropWhile (p := Char.isDigit) (l := unsigned)
      rwa [takeWhile_of_no_digit hunsigned, List.nil_append] at happend
    unfold magnitude?
    rw [takeWhile_of_no_digit hunsigned, hdrop]
    dsimp only
    split
    · rename_i fraction
      rw [takeWhile_of_no_digit fun c hc => hunsigned c (List.mem_cons_of_mem _ hc)]
      exact if_pos ⟨rfl, rfl⟩
    · exact if_pos ⟨rfl, rfl⟩
  unfold float?
  dsimp only
  rw [hword]
  dsimp only
  rw [hnone]
  rfl

end StackMachine.Decimal
