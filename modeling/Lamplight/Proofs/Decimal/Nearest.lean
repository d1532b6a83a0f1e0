import Mathlib.Algebra.Order.Field.Power
import Mathlib.Data.Int.Log
import Mathlib.Data.Rat.Floor
import Mathlib.Tactic.FieldSimp
import Mathlib.Tactic.NormNum
import Mathlib.Tactic.Positivity
import Mathlib.Tactic.Ring
import Lamplight.Decimal.Shortest

/-!
# The nearest code of a quotient

`nearestCode` takes a numerator and a denominator, but it depends on their quotient only, it
gives back every finite code from the code's own value, and the two shortcuts of `codeOfDecimal`
for huge and tiny powers of ten change nothing.  The arithmetic is done in the rationals, where
the largest power of two below a quotient is its logarithm.
-/

namespace Lamplight.Decimal

/-! ## Rounded quotients -/

theorem roundDiv_mul_right {factor : Nat} (positive : 0 < factor) (numerator denominator : Nat) :
    roundDiv (numerator * factor) (denominator * factor) = roundDiv numerator denominator := by
  have less : ∀ left right : Nat,
      2 * (left * factor) < right * factor ↔ 2 * left < right := by
    intro left right
    rw [← Nat.mul_assoc, Nat.mul_lt_mul_right positive]
  have greater : ∀ left right : Nat,
      right * factor < 2 * (left * factor) ↔ right < 2 * left := by
    intro left right
    rw [← Nat.mul_assoc, Nat.mul_lt_mul_right positive]
  simp only [roundDiv, Nat.mul_div_mul_right _ _ positive, Nat.mul_mod_mul_right, less, greater]

/-- A rounded quotient depends on the quotient only. -/
theorem roundDiv_congr {numerator denominator otherNumerator otherDenominator : Nat}
    (positive : 0 < denominator) (otherPositive : 0 < otherDenominator)
    (equal : numerator * otherDenominator = otherNumerator * denominator) :
    roundDiv numerator denominator = roundDiv otherNumerator otherDenominator := by
  calc roundDiv numerator denominator
      = roundDiv (numerator * otherDenominator) (denominator * otherDenominator) :=
        (roundDiv_mul_right otherPositive _ _).symm
    _ = roundDiv (otherNumerator * denominator) (otherDenominator * denominator) := by
        rw [equal, Nat.mul_comm denominator]
    _ = roundDiv otherNumerator otherDenominator := roundDiv_mul_right positive _ _

theorem div_le_roundDiv (numerator denominator : Nat) :
    numerator / denominator ≤ roundDiv numerator denominator := by
  simp only [roundDiv]
  split
  · exact Nat.le_refl _
  · split
    · exact Nat.le_succ _
    · split
      · exact Nat.le_refl _
      · exact Nat.le_succ _

theorem roundDiv_eq_zero {numerator denominator : Nat} (small : 2 * numerator < denominator) :
    roundDiv numerator denominator = 0 := by
  have whole : numerator / denominator = 0 := Nat.div_eq_of_lt (by omega)
  have part : numerator % denominator = numerator := Nat.mod_eq_of_lt (by omega)
  simp only [roundDiv, whole, part, if_pos small]

/-! ## The largest power of two -/

/-- A power with a whole exponent, as a quotient of two powers with natural exponents. -/
theorem zpow_eq_div (base : Nat) (positive : 0 < base) (power : Int) :
    (base : ℚ) ^ power = (Nat.pow base power.toNat : ℚ) / Nat.pow base (-power).toNat := by
  have nonzero : (base : ℚ) ≠ 0 := by positivity
  have split : power = (power.toNat : Int) - ((-power).toNat : Int) := by omega
  conv_lhs => rw [split]
  rw [zpow_sub₀ nonzero, zpow_natCast, zpow_natCast]
  push_cast [Nat.pow_eq]
  rfl

section Logarithm

variable {quotient : ℚ}

theorem two_zpow_le_iff (positive : 0 < quotient) {power : Int} :
    (2 : ℚ) ^ power ≤ quotient ↔ power ≤ Int.log 2 quotient := by
  have powers := Int.zpow_le_iff_le_log (b := 2) (by decide) (x := power) positive
  rwa [Nat.cast_ofNat] at powers

theorem lt_two_zpow_iff (positive : 0 < quotient) {power : Int} :
    quotient < (2 : ℚ) ^ power ↔ Int.log 2 quotient < power := by
  have powers := Int.lt_zpow_iff_log_lt (b := 2) (by decide) (x := power) positive
  rwa [Nat.cast_ofNat] at powers

end Logarithm

section Magnitude

variable {numerator denominator : Nat}

/-- Whether a quotient is below a power of two, without a division. -/
theorem div_lt_zpow_iff (numerator : Nat) (positive : 0 < denominator) (power : Int) :
    (numerator : ℚ) / denominator < 2 ^ power ↔
      numerator * Nat.pow 2 (-power).toNat < denominator * Nat.pow 2 power.toNat := by
  have above : (0 : ℚ) < denominator := by exact_mod_cast positive
  have below : (0 : ℚ) < Nat.pow 2 (-power).toNat := by
    exact_mod_cast Nat.pow_pos (n := (-power).toNat) (by decide : 0 < 2)
  have expanded := zpow_eq_div 2 (by decide) power
  rw [Nat.cast_ofNat] at expanded
  rw [expanded, div_lt_div_iff₀ above below, ← Nat.cast_mul, ← Nat.cast_mul, Nat.cast_lt,
    Nat.mul_comm (Nat.pow 2 power.toNat)]

/-- The magnitude is the logarithm of the quotient. -/
theorem binaryMagnitude_eq_log (numeratorPositive : 0 < numerator)
    (positive : 0 < denominator) :
    binaryMagnitude numerator denominator = Int.log 2 ((numerator : ℚ) / denominator) := by
  have quotientPositive : (0 : ℚ) < (numerator : ℚ) / denominator := by positivity
  have lower : (2 : ℚ) ^ ((numerator.log2 : Int) - (denominator.log2 + 1 : Nat)) ≤
      (numerator : ℚ) / denominator := by
    have above : (2 : ℚ) ^ numerator.log2 ≤ numerator := by
      exact_mod_cast Nat.log2_self_le (Nat.ne_of_gt numeratorPositive)
    have below : (denominator : ℚ) ≤ 2 ^ (denominator.log2 + 1) := by
      exact_mod_cast Nat.le_of_lt (Nat.lt_log2_self (n := denominator))
    rw [zpow_sub₀ two_ne_zero, zpow_natCast, zpow_natCast]
    gcongr
  have upper : (numerator : ℚ) / denominator <
      2 ^ ((numerator.log2 + 1 : Nat) - (denominator.log2 : Int)) := by
    have above : (numerator : ℚ) < 2 ^ (numerator.log2 + 1) := by
      exact_mod_cast Nat.lt_log2_self (n := numerator)
    have below : (2 : ℚ) ^ denominator.log2 ≤ denominator := by
      exact_mod_cast Nat.log2_self_le (Nat.ne_of_gt positive)
    rw [zpow_sub₀ two_ne_zero, zpow_natCast, zpow_natCast]
    exact div_lt_div₀ above below (by positivity) (by positivity)
  have test := div_lt_zpow_iff numerator positive
    ((numerator.log2 : Int) - denominator.log2)
  rw [two_zpow_le_iff quotientPositive] at lower
  rw [lt_two_zpow_iff quotientPositive] at upper test
  simp only [binaryMagnitude, ← test]
  split <;> omega

end Magnitude

/-! ## The nearest code -/

section Nearest

variable {numerator denominator : Nat}

/-- The power of two of the unit that a quotient is rounded to. -/
def unitPower (quotient : ℚ) : Int := max (Int.log 2 quotient - 52) (-1074)

theorem nearestCode_zero (denominator : Nat) : nearestCode 0 denominator = 0 := by
  rw [nearestCode, if_pos rfl]

/-- The nearest code in terms of the quotient. -/
theorem nearestCode_eq (numeratorPositive : 0 < numerator) (positive : 0 < denominator)
    {power : Int} (unit : unitPower ((numerator : ℚ) / denominator) = power) :
    nearestCode numerator denominator =
      min infinityCode ((power + 1074).toNat * leadingBit +
        roundDiv (numerator * Nat.pow 2 (-power).toNat)
          (denominator * Nat.pow 2 power.toNat)) := by
  rw [unitPower, ← binaryMagnitude_eq_log numeratorPositive positive] at unit
  simp only [nearestCode, if_neg (Nat.ne_of_gt numeratorPositive), unit]

/-- The nearest code depends on the quotient only. -/
theorem nearestCode_congr {otherNumerator otherDenominator : Nat}
    (positive : 0 < denominator) (otherPositive : 0 < otherDenominator)
    (equal : (numerator : ℚ) / denominator = (otherNumerator : ℚ) / otherDenominator) :
    nearestCode numerator denominator = nearestCode otherNumerator otherDenominator := by
  have cross : numerator * otherDenominator = otherNumerator * denominator := by
    rw [div_eq_div_iff (by positivity) (by positivity)] at equal
    exact_mod_cast equal
  rcases Nat.eq_zero_or_pos numerator with rfl | numeratorPositive
  · have otherZero : otherNumerator = 0 := by
      rw [Nat.zero_mul] at cross
      exact (Nat.mul_eq_zero.mp cross.symm).resolve_right (Nat.ne_of_gt positive)
    rw [otherZero, nearestCode_zero, nearestCode_zero]
  · have otherNumeratorPositive : 0 < otherNumerator := by
      apply Nat.pos_of_ne_zero
      intro zero
      rw [zero, Nat.zero_mul] at cross
      exact absurd cross (Nat.ne_of_gt (Nat.mul_pos numeratorPositive otherPositive))
    rw [nearestCode_eq numeratorPositive positive rfl,
      nearestCode_eq otherNumeratorPositive otherPositive rfl, equal]
    congr 2
    apply roundDiv_congr
    · exact Nat.mul_pos positive (Nat.pow_pos (by decide))
    · exact Nat.mul_pos otherPositive (Nat.pow_pos (by decide))
    · rw [Nat.mul_mul_mul_comm, cross, Nat.mul_mul_mul_comm]

/-- A quotient far above the unit is rounded to a significand with a leading bit. -/
theorem leadingBit_le_roundDiv (positive : 0 < denominator) (power : Int)
    (large : (2 : ℚ) ^ (power + 52) ≤ (numerator : ℚ) / denominator) :
    leadingBit ≤ roundDiv (numerator * Nat.pow 2 (-power).toNat)
      (denominator * Nat.pow 2 power.toNat) := by
  have powerPositive : 0 < Nat.pow 2 power.toNat := Nat.pow_pos (by decide)
  have inversePositive : 0 < Nat.pow 2 (-power).toNat := Nat.pow_pos (by decide)
  have whole : leadingBit * (denominator * Nat.pow 2 power.toNat) ≤
      numerator * Nat.pow 2 (-power).toNat := by
    have expanded := zpow_eq_div 2 (by decide) power
    rw [Nat.cast_ofNat] at expanded
    rw [zpow_add₀ two_ne_zero, expanded, div_mul_eq_mul_div,
      div_le_div_iff₀ (by exact_mod_cast inversePositive) (by exact_mod_cast positive)] at large
    have bit : ((2 : ℚ) ^ (52 : Int)) = (leadingBit : ℚ) := by norm_num [leadingBit]
    rw [bit] at large
    have cast : Nat.pow 2 power.toNat * leadingBit * denominator ≤
        numerator * Nat.pow 2 (-power).toNat := by
      exact_mod_cast large
    calc leadingBit * (denominator * Nat.pow 2 power.toNat)
        = Nat.pow 2 power.toNat * leadingBit * denominator := by ring
      _ ≤ numerator * Nat.pow 2 (-power).toNat := cast
  calc leadingBit
      ≤ numerator * Nat.pow 2 (-power).toNat / (denominator * Nat.pow 2 power.toNat) :=
        (Nat.le_div_iff_mul_le (Nat.mul_pos positive powerPositive)).mpr whole
    _ ≤ _ := div_le_roundDiv _ _

/-- What lies past all finite numbers is infinite. -/
theorem nearestCode_of_ge (positive : 0 < denominator)
    (large : (2 : ℚ) ^ (1024 : Int) ≤ (numerator : ℚ) / denominator) :
    nearestCode numerator denominator = infinityCode := by
  have quotientPositive : (0 : ℚ) < (numerator : ℚ) / denominator :=
    lt_of_lt_of_le (by positivity) large
  have numeratorPositive : 0 < numerator := by
    apply Nat.pos_of_ne_zero
    rintro rfl
    simp at quotientPositive
  have exponent := (two_zpow_le_iff quotientPositive).mp large
  have unit : unitPower ((numerator : ℚ) / denominator) =
      Int.log 2 ((numerator : ℚ) / denominator) - 52 := by
    rw [unitPower]
    omega
  have rounded := leadingBit_le_roundDiv positive
    (Int.log 2 ((numerator : ℚ) / denominator) - 52)
    ((two_zpow_le_iff quotientPositive).mpr (by omega))
  rw [nearestCode_eq numeratorPositive positive unit]
  apply Nat.min_eq_left
  have places : 2046 ≤ (Int.log 2 ((numerator : ℚ) / denominator) - 52 + 1074).toNat := by omega
  calc infinityCode
      = 2046 * leadingBit + leadingBit := rfl
    _ ≤ _ := Nat.add_le_add (Nat.mul_le_mul_right _ places) rounded

/-- What lies below half of the smallest number is zero. -/
theorem nearestCode_of_lt (positive : 0 < denominator)
    (small : (numerator : ℚ) / denominator < (2 : ℚ) ^ (-1075 : Int)) :
    nearestCode numerator denominator = 0 := by
  rcases Nat.eq_zero_or_pos numerator with rfl | numeratorPositive
  · exact nearestCode_zero denominator
  · have quotientPositive : (0 : ℚ) < (numerator : ℚ) / denominator := by positivity
    have exponent := (lt_two_zpow_iff quotientPositive).mp small
    have unit : unitPower ((numerator : ℚ) / denominator) = -1074 := by
      rw [unitPower]
      omega
    have half : 2 * (numerator * Nat.pow 2 (-(-1074 : Int)).toNat) <
        denominator * Nat.pow 2 (-1074 : Int).toNat := by
      have more : (-(-1075 : Int)).toNat = (-(-1074 : Int)).toNat + 1 := rfl
      have none : (-1075 : Int).toNat = (-1074 : Int).toNat := rfl
      rw [div_lt_zpow_iff numerator positive, more, none] at small
      generalize (-(-1074 : Int)).toNat = places at small ⊢
      rwa [Nat.pow_eq, Nat.pow_succ, ← Nat.mul_assoc, Nat.mul_comm _ 2] at small
    rw [nearestCode_eq numeratorPositive positive unit, roundDiv_eq_zero half]
    rfl

end Nearest

/-! ## Codes and their values -/

/-- The number a finite code stands for. -/
def rational (code : Nat) : ℚ := significand code * 2 ^ binaryExponent code

theorem ratio_eq_rational (code : Nat) :
    ((ratio code).1 : ℚ) / (ratio code).2 = rational code := by
  have expanded := zpow_eq_div 2 (by decide) (binaryExponent code)
  rw [Nat.cast_ofNat] at expanded
  rw [rational, expanded, ratio]
  push_cast
  rw [mul_div_assoc]

theorem binaryExponent_ge (code : Nat) : -1074 ≤ binaryExponent code := by
  rw [binaryExponent]
  split
  · exact Int.le_refl _
  · next normal =>
    have places : 1 ≤ code / leadingBit :=
      (Nat.one_le_div_iff (by decide)).mpr (Nat.le_of_not_lt normal)
    omega

/-- A code is put together from the two parts of its value. -/
theorem code_eq_add (code : Nat) :
    (binaryExponent code + 1074).toNat * leadingBit + significand code = code := by
  rw [binaryExponent, significand]
  split
  · simp
  · next normal =>
    have places : 1 ≤ code / leadingBit :=
      (Nat.one_le_div_iff (by decide)).mpr (Nat.le_of_not_lt normal)
    have whole := Nat.div_add_mod code leadingBit
    obtain ⟨more, equal⟩ : ∃ more, code / leadingBit = more + 1 := ⟨code / leadingBit - 1, by omega⟩
    rw [equal] at whole ⊢
    have power : ((more + 1 : Nat) - 1075 + 1074 : Int).toNat = more := by omega
    rw [power, ← Nat.add_assoc, Nat.mul_comm, ← Nat.mul_succ]
    exact whole

section Finite

variable {code : Nat}

theorem significand_lt (code : Nat) : significand code < 2 * leadingBit := by
  rw [significand]
  split
  · omega
  · have part := Nat.mod_lt code (y := leadingBit) (by decide)
    omega

theorem significand_pos (positive : 0 < code) : 0 < significand code := by
  rw [significand]
  split
  · exact positive
  · exact Nat.add_pos_left (by decide) _

theorem rational_pos (positive : 0 < code) : 0 < rational code := by
  have whole : (0 : ℚ) < significand code := by exact_mod_cast significand_pos positive
  rw [rational]
  positivity

/-- The unit of the value of a code is the power in it. -/
theorem unitPower_rational (positive : 0 < code) :
    unitPower (rational code) = binaryExponent code := by
  have above : rational code < 2 ^ (binaryExponent code + 53) := by
    have whole : (significand code : ℚ) < 2 ^ (53 : Int) := by
      have bound : (significand code : ℚ) < (2 * leadingBit : Nat) := by
        exact_mod_cast significand_lt code
      norm_num [leadingBit] at bound ⊢
      exact bound
    rw [rational, zpow_add₀ two_ne_zero, mul_comm]
    gcongr
  rw [lt_two_zpow_iff (rational_pos positive)] at above
  have least := binaryExponent_ge code
  rw [unitPower]
  -- A normal number fills its significand, and a subnormal one has the lowest power anyway.
  rcases Nat.lt_or_ge code leadingBit with subnormal | normal
  · have lowest : binaryExponent code = -1074 := if_pos subnormal
    omega
  · have below : 2 ^ (binaryExponent code + 52) ≤ rational code := by
      have whole : (2 : ℚ) ^ (52 : Int) ≤ significand code := by
        have bound : leadingBit ≤ significand code := by
          rw [significand, if_neg (Nat.not_lt.mpr normal)]
          exact Nat.le_add_right _ _
        have cast : (leadingBit : ℚ) ≤ significand code := by exact_mod_cast bound
        norm_num [leadingBit] at cast ⊢
        exact cast
      rw [rational, zpow_add₀ two_ne_zero, mul_comm]
      gcongr
    rw [two_zpow_le_iff (rational_pos positive)] at below
    omega

/-- The number nearest to the value of a finite code has that code. -/
theorem nearestCode_rational {numerator denominator : Nat} (denominatorPositive : 0 < denominator)
    (finite : code < infinityCode)
    (equal : (numerator : ℚ) / denominator = rational code) :
    nearestCode numerator denominator = code := by
  have ratioPositive : 0 < (ratio code).2 := Nat.pow_pos (by decide)
  rw [nearestCode_congr denominatorPositive ratioPositive
    (equal.trans (ratio_eq_rational code).symm)]
  rcases Nat.eq_zero_or_pos code with rfl | positive
  · exact nearestCode_zero _
  · have numeratorPositive : 0 < (ratio code).1 :=
      Nat.mul_pos (significand_pos positive) (Nat.pow_pos (by decide))
    have unit : unitPower (((ratio code).1 : ℚ) / (ratio code).2) = binaryExponent code := by
      rw [ratio_eq_rational, unitPower_rational positive]
    have rounded : roundDiv ((ratio code).1 * Nat.pow 2 (-binaryExponent code).toNat)
        ((ratio code).2 * Nat.pow 2 (binaryExponent code).toNat) = significand code := by
      rw [ratio, Nat.mul_assoc, Nat.mul_comm (Nat.pow 2 (binaryExponent code).toNat)]
      apply roundDiv_mul_self
      exact Nat.mul_pos (Nat.pow_pos (by decide)) (Nat.pow_pos (by decide))
    rw [nearestCode_eq numeratorPositive ratioPositive unit, rounded, code_eq_add]
    exact Nat.min_eq_right (Nat.le_of_lt finite)

end Finite

/-! ## Decimals -/

/-- The value of a decimal as a quotient. -/
theorem decimal_eq_div (digits : Nat) (exponent : Int) :
    ((digits * Nat.pow 10 exponent.toNat : Nat) : ℚ) / (Nat.pow 10 (-exponent).toNat : Nat) =
      digits * 10 ^ exponent := by
  have expanded := zpow_eq_div 10 (by decide) exponent
  rw [Nat.cast_ofNat] at expanded
  rw [expanded]
  push_cast
  rw [mul_div_assoc]

theorem two_pow_le_ten_pow : (2 : ℚ) ^ (1023 : Int) ≤ 10 ^ (308 : Int) := by
  calc (2 : ℚ) ^ (1023 : Int)
      = ((2 : ℚ) ^ (93 : Int)) ^ (11 : Int) := by rw [← zpow_mul]; rfl
    _ ≤ ((10 : ℚ) ^ (28 : Int)) ^ (11 : Int) := by
      apply zpow_le_zpow_left₀ (by decide) (by positivity)
      norm_num
    _ = (10 : ℚ) ^ (308 : Int) := by rw [← zpow_mul]; rfl

/-- A decimal with a power of ten that is too high is past all finite numbers. -/
theorem le_decimal_of_lt_exponent {digits : Nat} (nonzero : digits ≠ 0) {exponent : Int}
    (large : 310 < exponent) : (2 : ℚ) ^ (1024 : Int) ≤ digits * 10 ^ exponent := by
  have some : (1 : ℚ) ≤ digits := by exact_mod_cast Nat.pos_of_ne_zero nonzero
  calc (2 : ℚ) ^ (1024 : Int)
      = 2 ^ (1023 : Int) * 2 := by rw [← zpow_add_one₀ two_ne_zero]; rfl
    _ ≤ 10 ^ (308 : Int) * 10 := by
      gcongr
      · exact two_pow_le_ten_pow
      · norm_num
    _ = 10 ^ (309 : Int) := by rw [← zpow_add_one₀ (by norm_num)]; rfl
    _ ≤ 10 ^ exponent := zpow_le_zpow_right₀ (by norm_num) (by omega)
    _ ≤ digits * 10 ^ exponent := le_mul_of_one_le_left (by positivity) some

/-- The digits of a decimal make up for a power of ten each three bits. -/
theorem digits_lt (digits : Nat) :
    (digits : ℚ) < 4 * 10 ^ (((digits.log2 + 1) / 3 : Nat) : Int) := by
  have bits : digits < 2 ^ (digits.log2 + 1) := Nat.lt_log2_self
  have split : digits.log2 + 1 ≤ 2 + 3 * ((digits.log2 + 1) / 3) := by omega
  generalize (digits.log2 + 1) / 3 = places at split
  have bound : digits < 4 * 10 ^ places := by
    calc digits
        < 2 ^ (digits.log2 + 1) := bits
      _ ≤ 2 ^ (2 + 3 * places) := Nat.pow_le_pow_right (by decide) split
      _ = 4 * 8 ^ places := by rw [Nat.pow_add, Nat.pow_mul]
      _ ≤ 4 * 10 ^ places := Nat.mul_le_mul_left 4 (Nat.pow_le_pow_left (by decide) places)
  rw [zpow_natCast]
  exact_mod_cast bound

/-- A decimal whose power of ten is far below what its digits make up for is close to zero. -/
theorem decimal_lt_of_exponent_lt {digits : Nat} {exponent : Int}
    (small : exponent + (digits.log2 + 1) / 3 + 1 < -330) :
    (digits : ℚ) * 10 ^ exponent < 2 ^ (-1075 : Int) := by
  have total : (((digits.log2 + 1) / 3 : Nat) : Int) + exponent ≤ -332 := by
    push_cast
    omega
  have ten : (10 : ℚ) ≠ 0 := by norm_num
  have scaled : (4 : ℚ) * 2 ^ (1075 : Int) ≤ 10 ^ (332 : Int) := by
    calc (4 : ℚ) * 2 ^ (1075 : Int)
        = 2 ^ (1023 : Int) * 2 ^ (54 : Int) := by
          rw [← zpow_add₀ two_ne_zero, show (4 : ℚ) = 2 ^ (2 : Int) by norm_num,
            ← zpow_add₀ two_ne_zero]
          rfl
      _ ≤ 10 ^ (308 : Int) * 10 ^ (24 : Int) := by
        gcongr
        · exact two_pow_le_ten_pow
        · norm_num
      _ = 10 ^ (332 : Int) := by rw [← zpow_add₀ ten]; rfl
  calc (digits : ℚ) * 10 ^ exponent
      < 4 * 10 ^ (((digits.log2 + 1) / 3 : Nat) : Int) * 10 ^ exponent := by
        gcongr
        exact digits_lt digits
    _ = 4 * 10 ^ ((((digits.log2 + 1) / 3 : Nat) : Int) + exponent) := by
      rw [zpow_add₀ ten, mul_assoc]
    _ ≤ 4 * 10 ^ (-332 : Int) := by
      gcongr
      norm_num
    _ ≤ 2 ^ (-1075 : Int) := by
      rw [zpow_neg, zpow_neg, ← div_eq_mul_inv, div_le_iff₀ (by positivity), inv_mul_eq_div,
        le_div_iff₀ (by positivity)]
      exact scaled

/-- Reading a decimal is taking the nearest code; the two tests for powers of ten that are out of
range only save work. -/
theorem codeOfDecimal_eq_nearestCode (digits : Nat) (exponent : Int) :
    codeOfDecimal digits exponent =
      nearestCode (digits * Nat.pow 10 exponent.toNat) (Nat.pow 10 (-exponent).toNat) := by
  have denominatorPositive : 0 < Nat.pow 10 (-exponent).toNat := Nat.pow_pos (by decide)
  rw [codeOfDecimal]
  split
  · next zero =>
    rw [zero, Nat.zero_mul, nearestCode_zero]
  · next nonzero =>
    split
    · next large =>
      symm
      apply nearestCode_of_ge denominatorPositive
      rw [decimal_eq_div]
      exact le_decimal_of_lt_exponent nonzero large
    · split
      · next small =>
        symm
        apply nearestCode_of_lt denominatorPositive
        rw [decimal_eq_div]
        exact decimal_lt_of_exponent_lt small
      · rfl

/-- Decimals of one value are read as one code. -/
theorem codeOfDecimal_congr {digits otherDigits : Nat} {exponent otherExponent : Int}
    (equal : (digits : ℚ) * 10 ^ exponent = otherDigits * 10 ^ otherExponent) :
    codeOfDecimal digits exponent = codeOfDecimal otherDigits otherExponent := by
  rw [codeOfDecimal_eq_nearestCode, codeOfDecimal_eq_nearestCode]
  apply nearestCode_congr
  · exact Nat.pow_pos (by decide)
  · exact Nat.pow_pos (by decide)
  · rw [decimal_eq_div, decimal_eq_div, equal]

/-- A decimal that is the value of a finite code is read as that code. -/
theorem codeOfDecimal_rational {digits : Nat} {exponent : Int} {code : Nat}
    (finite : code < infinityCode) (equal : (digits : ℚ) * 10 ^ exponent = rational code) :
    codeOfDecimal digits exponent = code := by
  rw [codeOfDecimal_eq_nearestCode]
  exact nearestCode_rational (Nat.pow_pos (by decide)) finite ((decimal_eq_div _ _).trans equal)

/-! ## The shortest decimal -/

/-- The decimal that is written out in full is the value of its code. -/
theorem Magnitude.exact_eq_rational (code : Nat) :
    ((exact code).digits : ℚ) * 10 ^ (exact code).exponent = rational code := by
  have two := zpow_eq_div 2 (by decide) (binaryExponent code)
  rw [Nat.cast_ofNat] at two
  rw [exact, rational]
  split
  · next large =>
    obtain ⟨power, equal⟩ := Int.eq_ofNat_of_zero_le large
    rw [equal]
    simp
  · next small =>
    obtain ⟨power, equal⟩ :=
      Int.eq_ofNat_of_zero_le (Int.le_of_lt (Int.neg_pos.mpr (not_le.mp small)))
    rw [equal, Int.eq_neg_comm.mp equal.symm]
    have split : (10 : ℚ) ^ power = 5 ^ power * 2 ^ power := by
      rw [← mul_pow]
      norm_num
    simp only [zpow_neg, zpow_natCast, split]
    push_cast [Int.toNat_natCast, Nat.pow_eq]
    field_simp

/-- The shortest decimal of a finite code is read as that code. -/
theorem codeOfDecimal_shortest (tie : Tie) {code : Nat} (finite : code < infinityCode) :
    codeOfDecimal (shortest tie code).digits (shortest tie code).exponent = code := by
  rcases shortest_readsAs_or_exact tie code with reads | exact
  · exact beq_iff_eq.mp reads
  · rw [exact]
    exact codeOfDecimal_rational finite (Magnitude.exact_eq_rational code)

end Lamplight.Decimal
