/-!
# Rounded quotients

The quotient of two natural numbers, rounded to the nearest whole number.  Reading
a decimal into a binary word and writing a number with fixed places both come down
to it.
-/

namespace Lamplight.Decimal

/-- `numerator / denominator` to the nearest whole number; a half goes to the even
neighbour. -/
def roundDiv (numerator denominator : Nat) : Nat :=
  let quotient := numerator / denominator
  let remainder := numerator % denominator
  if 2 * remainder < denominator then quotient
  else if denominator < 2 * remainder then quotient + 1
  else if quotient % 2 = 0 then quotient
  else quotient + 1

/-- The result is within half a unit of the quotient from below. -/
theorem two_mul_roundDiv_le (numerator denominator : Nat) :
    2 * (roundDiv numerator denominator * denominator) ≤ 2 * numerator + denominator := by
  have parts := Nat.div_add_mod numerator denominator
  have product : numerator / denominator * denominator = denominator * (numerator / denominator) :=
    Nat.mul_comm ..
  simp only [roundDiv]
  split <;> (try split) <;> (try split) <;> simp only [Nat.add_mul, product] <;> omega

/-- The result is within half a unit of the quotient from above. -/
theorem two_mul_le_roundDiv {denominator : Nat} (positive : 0 < denominator) (numerator : Nat) :
    2 * numerator ≤ 2 * (roundDiv numerator denominator * denominator) + denominator := by
  have parts := Nat.div_add_mod numerator denominator
  have product : numerator / denominator * denominator = denominator * (numerator / denominator) :=
    Nat.mul_comm ..
  have small := Nat.mod_lt numerator positive
  simp only [roundDiv]
  split <;> (try split) <;> (try split) <;> simp only [Nat.add_mul, product] <;> omega

/-- A whole quotient is kept. -/
theorem roundDiv_mul_self {denominator : Nat} (positive : 0 < denominator) (quotient : Nat) :
    roundDiv (quotient * denominator) denominator = quotient := by
  simp [roundDiv, positive]

end Lamplight.Decimal
