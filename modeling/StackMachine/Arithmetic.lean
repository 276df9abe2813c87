import StackMachine.Instruction

/-!
# Checked arithmetic

Operations on 64-bit signed integers that give the exact result or a fault, and never a wrapped
value. Sums, differences and products are formed over the integers and tested once. The quotient
is computed on words: the machine's truncating division is corrected downwards exactly when it
rounded up.
-/

namespace StackMachine.Arithmetic

/-- The integers that a 64-bit signed word can hold. -/
def Fits (n : Int) : Prop :=
  -9223372036854775808 ≤ n ∧ n ≤ 9223372036854775807

instance (n : Int) : Decidable (Fits n) := by
  unfold Fits
  infer_instance

/-- The word that holds `n`, or an overflow if there is none. -/
def narrow (n : Int) : Except Fault Int64 :=
  if Fits n then .ok (Int64.ofInt n) else .error .integerOverflow

/-- The sum. -/
def add (a b : Int64) : Except Fault Int64 :=
  narrow (a.toInt + b.toInt)

/-- The difference. -/
def sub (a b : Int64) : Except Fault Int64 :=
  narrow (a.toInt - b.toInt)

/-- The product. -/
def mul (a b : Int64) : Except Fault Int64 :=
  narrow (a.toInt * b.toInt)

/-- The quotient rounded toward negative infinity. The least word divided by minus one is the only
quotient of two words that is no word. -/
def floorDiv (a b : Int64) : Except Fault Int64 :=
  if b = 0 then
    .error .divisionByZero
  else if a = Int64.minValue ∧ b = -1 then
    .error .integerOverflow
  else if a % b ≠ 0 ∧ decide (a < 0) ≠ decide (b < 0) then
    .ok (a / b - 1)
  else
    .ok (a / b)

end StackMachine.Arithmetic
