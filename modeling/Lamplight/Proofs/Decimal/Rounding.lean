import Mathlib.Data.Nat.Cast.Order.Field
import Lamplight.Proofs.Decimal.Nearest
import Lamplight.Proofs.Decimal.Undefined

/-!
# Rounding gives the nearest number

What is rounded from a mantissa, an exponent and the bits below the mantissa has the code nearest to
the quotient that these stand for (`rank_roundWithAccuracy`).  The nearest code grows with the
quotient, and so does `nearestRank`, which takes the sign into account.
-/

namespace Lamplight.Decimal

open Float.Model Float.Model.UnpackedFloat

/-! ## The order of nearest codes -/

theorem roundDiv_mono {numerator other denominator : Nat} (positive : 0 < denominator)
    (ordered : numerator ≤ other) :
    roundDiv numerator denominator ≤ roundDiv other denominator := by
  by_contra above
  have more : roundDiv other denominator + 1 ≤ roundDiv numerator denominator :=
    Nat.lt_of_not_le above
  have upper := two_mul_roundDiv_le numerator denominator
  have lower := two_mul_le_roundDiv positive other
  have scaled := Nat.mul_le_mul_right denominator more
  rw [Nat.add_mul, Nat.one_mul] at scaled
  -- Both bounds are reached, so that the two quotients are the same half.
  have equal : numerator = other := by omega
  exact above (Nat.le_of_eq (congrArg (roundDiv · denominator) equal))

section Monotone

variable {numerator denominator otherNumerator otherDenominator : Nat}

theorem roundDiv_le_roundDiv (positive : 0 < denominator) (otherPositive : 0 < otherDenominator)
    (ordered : numerator * otherDenominator ≤ otherNumerator * denominator) :
    roundDiv numerator denominator ≤ roundDiv otherNumerator otherDenominator := by
  calc roundDiv numerator denominator
      = roundDiv (numerator * otherDenominator) (denominator * otherDenominator) :=
        (roundDiv_mul_right otherPositive _ _).symm
    _ ≤ roundDiv (otherNumerator * denominator) (denominator * otherDenominator) :=
        roundDiv_mono (Nat.mul_pos positive otherPositive) ordered
    _ = roundDiv (otherNumerator * denominator) (otherDenominator * denominator) := by
        rw [Nat.mul_comm denominator]
    _ = roundDiv otherNumerator otherDenominator := roundDiv_mul_right positive _ _

/-- The significand that a quotient is rounded to has room for the leading bit and what a carry
makes of it. -/
theorem roundDiv_le_room (numeratorPositive : 0 < numerator) (positive : 0 < denominator)
    {power : Int} (unit : unitPower ((numerator : ℚ) / denominator) = power) :
    roundDiv (numerator * Nat.pow 2 (-power).toNat) (denominator * Nat.pow 2 power.toNat) ≤
      2 * leadingBit := by
  have quotientPositive : (0 : ℚ) < (numerator : ℚ) / denominator := by positivity
  have scalePositive : 0 < denominator * Nat.pow 2 power.toNat :=
    Nat.mul_pos positive (Nat.pow_pos (by decide))
  have below : (numerator : ℚ) / denominator < 2 ^ (power + 53) := by
    rw [lt_two_zpow_iff quotientPositive]
    rw [unitPower] at unit
    omega
  have whole : numerator * Nat.pow 2 (-power).toNat ≤
      2 * leadingBit * (denominator * Nat.pow 2 power.toNat) := by
    have expanded := zpow_eq_div 2 (by decide) power
    have inversePositive : (0 : ℚ) < Nat.pow 2 (-power).toNat := by
      exact_mod_cast Nat.pow_pos (n := (-power).toNat) (by decide : 0 < 2)
    have bit : ((2 : ℚ) ^ (53 : Int)) = ((2 * leadingBit : Nat) : ℚ) := by norm_num [leadingBit]
    rw [Nat.cast_ofNat] at expanded
    rw [zpow_add₀ two_ne_zero, expanded, bit, div_mul_eq_mul_div,
      div_lt_div_iff₀ (by exact_mod_cast positive) inversePositive] at below
    have cast : numerator * Nat.pow 2 (-power).toNat <
        Nat.pow 2 power.toNat * (2 * leadingBit) * denominator := by
      exact_mod_cast below
    calc numerator * Nat.pow 2 (-power).toNat
        ≤ Nat.pow 2 power.toNat * (2 * leadingBit) * denominator := Nat.le_of_lt cast
      _ = 2 * leadingBit * (denominator * Nat.pow 2 power.toNat) := by ring
  calc roundDiv (numerator * Nat.pow 2 (-power).toNat) (denominator * Nat.pow 2 power.toNat)
      ≤ roundDiv (2 * leadingBit * (denominator * Nat.pow 2 power.toNat))
          (denominator * Nat.pow 2 power.toNat) := roundDiv_mono scalePositive whole
    _ = 2 * leadingBit := roundDiv_mul_self scalePositive _

/-- The significand of a number with a higher unit than the lowest has its leading bit. -/
theorem leadingBit_le_of_unit (numeratorPositive : 0 < numerator) (positive : 0 < denominator)
    {power : Int} (unit : unitPower ((numerator : ℚ) / denominator) = power)
    (above : power ≠ -1074) :
    leadingBit ≤
      roundDiv (numerator * Nat.pow 2 (-power).toNat) (denominator * Nat.pow 2 power.toNat) := by
  have quotientPositive : (0 : ℚ) < (numerator : ℚ) / denominator := by positivity
  apply leadingBit_le_roundDiv positive
  rw [two_zpow_le_iff quotientPositive]
  rw [unitPower] at unit
  omega

/-- A larger quotient has no smaller code. -/
theorem nearestCode_mono (positive : 0 < denominator) (otherPositive : 0 < otherDenominator)
    (ordered : (numerator : ℚ) / denominator ≤ (otherNumerator : ℚ) / otherDenominator) :
    nearestCode numerator denominator ≤ nearestCode otherNumerator otherDenominator := by
  rcases Nat.eq_zero_or_pos numerator with rfl | numeratorPositive
  · rw [nearestCode_zero]
    exact Nat.zero_le _
  · have quotientPositive : (0 : ℚ) < (numerator : ℚ) / denominator := by positivity
    have cross : numerator * otherDenominator ≤ otherNumerator * denominator := by
      rw [div_le_div_iff₀ (by positivity) (by positivity)] at ordered
      exact_mod_cast ordered
    have otherNumeratorPositive : 0 < otherNumerator := by
      apply Nat.pos_of_ne_zero
      rintro rfl
      have product := Nat.mul_pos numeratorPositive otherPositive
      omega
    have units : unitPower ((numerator : ℚ) / denominator) ≤
        unitPower ((otherNumerator : ℚ) / otherDenominator) := by
      have logs : Int.log 2 ((numerator : ℚ) / denominator) ≤
          Int.log 2 ((otherNumerator : ℚ) / otherDenominator) :=
        Int.log_mono_right quotientPositive ordered
      rw [unitPower, unitPower]
      omega
    have least : -1074 ≤ unitPower ((numerator : ℚ) / denominator) := le_max_right _ _
    rw [nearestCode_eq numeratorPositive positive rfl,
      nearestCode_eq otherNumeratorPositive otherPositive rfl]
    refine min_le_min_left _ ?_
    rcases Int.lt_or_eq_of_le units with less | equal
    · -- A carry of the smaller one reaches at most the next unit, at its lowest significand.
      have room := roundDiv_le_room numeratorPositive positive rfl
      have full := leadingBit_le_of_unit otherNumeratorPositive otherPositive rfl
        (ne_of_gt (lt_of_le_of_lt least less))
      simp only [leadingBit] at room full ⊢
      omega
    · rw [← equal]
      refine Nat.add_le_add_left (roundDiv_le_roundDiv ?_ ?_ ?_) _
      · exact Nat.mul_pos positive (Nat.pow_pos (by decide))
      · exact Nat.mul_pos otherPositive (Nat.pow_pos (by decide))
      · rw [Nat.mul_mul_mul_comm, Nat.mul_mul_mul_comm otherNumerator]
        exact Nat.mul_le_mul_right _ cross

end Monotone

/-- The rank of the number nearest to a rational. -/
def nearestRank (quotient : ℚ) : Int :=
  quotient.num.sign * nearestCode quotient.num.natAbs quotient.den

theorem natAbs_div_den (quotient : ℚ) : (quotient.num.natAbs : ℚ) / quotient.den = |quotient| := by
  conv_rhs => rw [← Rat.num_div_den quotient]
  rw [abs_div, Nat.abs_cast, Nat.cast_natAbs, Int.cast_abs]

/-- The nearest rank of a quotient with a sign. -/
theorem nearestRank_apply (sign : Sign) (numerator : Nat) {denominator : Nat}
    (positive : 0 < denominator) :
    nearestRank ((sign.apply numerator : Int) / denominator) =
      sign.apply (nearestCode numerator denominator) := by
  generalize equal : ((sign.apply numerator : Int) : ℚ) / denominator = quotient
  have magnitude : (quotient.num.natAbs : ℚ) / quotient.den = (numerator : ℚ) / denominator := by
    rw [natAbs_div_den, ← equal, abs_div, Nat.abs_cast]
    cases sign <;> simp [Sign.apply]
  rw [nearestRank, nearestCode_congr quotient.den_pos positive magnitude]
  rcases Nat.eq_zero_or_pos numerator with rfl | numeratorPositive
  · rw [nearestCode_zero]
    cases sign <;> simp [Sign.apply]
  · have quotientPositive : (0 : ℚ) < (numerator : ℚ) / denominator := by positivity
    cases sign with
    | positive =>
      have above : 0 < quotient.num := by
        rw [Rat.num_pos, ← equal]
        simpa [Sign.apply] using quotientPositive
      rw [Int.sign_eq_one_of_pos above, one_mul]
      rfl
    | negative =>
      have below : quotient.num < 0 := by
        rw [Rat.num_neg, ← equal]
        simpa [Sign.apply, neg_div] using quotientPositive
      rw [Int.sign_eq_neg_one_of_neg below, neg_one_mul]
      rfl

/-- A quotient with a power of two as a quotient. -/
theorem scaled_eq_div (numerator denominator : Nat) (exponent : Int) :
    (numerator : ℚ) / denominator * 2 ^ exponent =
      (numerator * Nat.pow 2 exponent.toNat : Nat) /
        (denominator * Nat.pow 2 (-exponent).toNat : Nat) := by
  have expanded := zpow_eq_div 2 (by decide) exponent
  rw [Nat.cast_ofNat] at expanded
  rw [expanded, Nat.cast_mul, Nat.cast_mul, mul_div_mul_comm]

theorem nearestRank_scaled (sign : Sign) (numerator : Nat) {denominator : Nat}
    (positive : 0 < denominator) (exponent : Int) :
    nearestRank ((sign.apply numerator : Int) / denominator * 2 ^ exponent) =
      sign.apply (nearestCode (numerator * Nat.pow 2 exponent.toNat)
        (denominator * Nat.pow 2 (-exponent).toNat)) := by
  have scaled := scaled_eq_div numerator denominator exponent
  have scalePositive : 0 < denominator * Nat.pow 2 (-exponent).toNat :=
    Nat.mul_pos positive (Nat.pow_pos (by decide))
  refine Eq.trans (congrArg nearestRank ?_) (nearestRank_apply sign _ scalePositive)
  cases sign with
  | positive => exact scaled
  | negative =>
    simp only [Sign.apply, Int.cast_neg, Int.cast_natCast, neg_div, neg_mul, neg_inj]
    exact scaled

theorem nearestRank_of_nonneg {quotient : ℚ} (nonneg : 0 ≤ quotient) :
    nearestRank quotient = nearestCode quotient.num.natAbs quotient.den := by
  rcases (Rat.num_nonneg.mpr nonneg).eq_or_lt with zero | above
  · rw [nearestRank, ← zero, Int.natAbs_zero, nearestCode_zero]
    rfl
  · rw [nearestRank, Int.sign_eq_one_of_pos above, one_mul]

theorem nearestRank_neg (quotient : ℚ) : nearestRank (-quotient) = -nearestRank quotient := by
  rw [nearestRank, nearestRank, Rat.num_neg_eq_neg_num, Rat.den_neg_eq_den, Int.sign_neg,
    Int.natAbs_neg, neg_mul]

/-- A larger rational has no smaller nearest rank. -/
theorem nearestRank_mono {quotient other : ℚ} (ordered : quotient ≤ other) :
    nearestRank quotient ≤ nearestRank other := by
  have nonneg : ∀ {quotient : ℚ}, 0 ≤ quotient → 0 ≤ nearestRank quotient := by
    intro quotient above
    rw [nearestRank_of_nonneg above]
    exact Int.natCast_nonneg _
  have above : ∀ {quotient other : ℚ}, 0 ≤ quotient → quotient ≤ other →
      nearestRank quotient ≤ nearestRank other := by
    intro quotient other start ordered
    rw [nearestRank_of_nonneg start, nearestRank_of_nonneg (start.trans ordered), Int.ofNat_le]
    apply nearestCode_mono quotient.den_pos other.den_pos
    rwa [natAbs_div_den, natAbs_div_den, abs_of_nonneg start, abs_of_nonneg (start.trans ordered)]
  rcases le_total 0 quotient with start | start
  · exact above start ordered
  · rcases le_total 0 other with finish | finish
    · have below := nonneg (neg_nonneg.mpr start)
      rw [nearestRank_neg] at below
      exact (neg_nonneg.mp below).trans (nonneg finish)
    · have mirrored := above (neg_nonneg.mpr finish) (neg_le_neg ordered)
      rw [nearestRank_neg, nearestRank_neg] at mirrored
      exact neg_le_neg_iff.mp mirrored

/-! ## Rounding a mantissa -/

/-- A mantissa with the two bits below it, as what is kept of a quotient. -/
structure Truncates (kept : ExtendedMantissa) (numerator denominator : Nat) : Prop where
  whole : kept.mantissa = numerator / denominator
  half : kept.roundBit = true ↔ denominator ≤ 2 * (numerator % denominator)
  rest : kept.stickyBit = true ↔
    numerator % denominator ≠ 0 ∧ 2 * (numerator % denominator) ≠ denominator

namespace Truncates

variable {kept : ExtendedMantissa} {numerator denominator : Nat}

theorem of_exact (mantissa : Nat) :
    Truncates (.ofMantissaAndAccuracy mantissa .exact) mantissa 1 := by
  have none : mantissa % 1 = 0 := Nat.mod_one mantissa
  constructor
  · exact (Nat.div_one mantissa).symm
  · simp [ExtendedMantissa.ofMantissaAndAccuracy, none]
  · simp [ExtendedMantissa.ofMantissaAndAccuracy, none]

/-- The two bits below a quotient are those of its remainder. -/
theorem of_div (numerator : Nat) (positive : 0 < denominator) :
    Truncates (.ofMantissaAndAccuracy (numerator / denominator)
      (accuracyOfFraction (numerator % denominator) denominator)) numerator denominator := by
  rw [accuracyOfFraction]
  split
  · next zero =>
    have middle : ¬denominator ≤ 2 * (numerator % denominator) := by omega
    exact ⟨rfl, iff_of_false Bool.false_ne_true middle,
      iff_of_false Bool.false_ne_true fun both => both.1 zero⟩
  · next nonzero =>
    rcases Nat.lt_trichotomy (2 * (numerator % denominator)) denominator with less | equal | greater
    · rw [Nat.compare_eq_lt.mpr less]
      exact ⟨rfl, iff_of_false Bool.false_ne_true (Nat.not_le.mpr less),
        iff_of_true rfl ⟨nonzero, Nat.ne_of_lt less⟩⟩
    · rw [Nat.compare_eq_eq.mpr equal]
      exact ⟨rfl, iff_of_true rfl (Nat.le_of_eq equal.symm),
        iff_of_false Bool.false_ne_true fun both => both.2 equal⟩
    · rw [Nat.compare_eq_gt.mpr greater]
      exact ⟨rfl, iff_of_true rfl (Nat.le_of_lt greater),
        iff_of_true rfl ⟨nonzero, Nat.ne_of_gt greater⟩⟩

theorem shiftRightOne (truncates : Truncates kept numerator denominator)
    (positive : 0 < denominator) :
    Truncates kept.shiftRightOne numerator (denominator * 2) := by
  obtain ⟨whole, half, rest⟩ := truncates
  have small := Nat.mod_lt numerator positive
  have wider : numerator % (denominator * 2) =
      numerator % denominator + denominator * (numerator / denominator % 2) := Nat.mod_mul
  have doubled : kept.shiftRightOne.roundBit = true ↔ numerator / denominator % 2 ≠ 0 := by
    rw [← whole]
    exact bne_iff_ne
  have sticky : kept.shiftRightOne.stickyBit = true ↔ numerator % denominator ≠ 0 := by
    show (kept.roundBit || kept.stickyBit) = true ↔ _
    rw [Bool.or_eq_true, half, rest]
    omega
  refine ⟨?_, doubled.trans ?_, sticky.trans ?_⟩
  · show kept.mantissa / 2 = _
    rw [whole, Nat.div_div_eq_div_mul]
  all_goals
    rcases Nat.mod_two_eq_zero_or_one (numerator / denominator) with even | odd
    · rw [even, Nat.mul_zero] at wider
      omega
    · rw [odd, Nat.mul_one] at wider
      omega

theorem shiftRight (truncates : Truncates kept numerator denominator) (positive : 0 < denominator)
    (count : Nat) : Truncates (kept >>> count) numerator (denominator * 2 ^ count) := by
  induction count with
  | zero =>
    rw [Nat.pow_zero, Nat.mul_one]
    exact truncates
  | succ count ih =>
    rw [Nat.pow_succ, ← Nat.mul_assoc]
    exact ih.shiftRightOne (Nat.mul_pos positive (Nat.two_pow_pos count))

/-- Rounding the mantissa rounds the quotient. -/
theorem roundedMantissa_eq (truncates : Truncates kept numerator denominator)
    (positive : 0 < denominator) : kept.roundedMantissa = roundDiv numerator denominator := by
  obtain ⟨mantissa, roundBit, stickyBit⟩ := kept
  obtain ⟨rfl, half, rest⟩ := truncates
  have small := Nat.mod_lt numerator positive
  simp only [roundDiv]
  cases roundBit with
  | false =>
    have below : 2 * (numerator % denominator) < denominator := by
      simpa using half
    rw [if_pos below]
    cases stickyBit <;> rfl
  | true =>
    have reached : denominator ≤ 2 * (numerator % denominator) := half.mp rfl
    rw [if_neg (Nat.not_lt.mpr reached)]
    cases stickyBit with
    | false =>
      have middle : ¬denominator < 2 * (numerator % denominator) := by
        simp only [Bool.false_eq_true, false_iff] at rest
        omega
      rw [if_neg middle]
      show numerator / denominator + numerator / denominator % 2 = _
      split <;> omega
    | true =>
      have past : denominator < 2 * (numerator % denominator) := by
        have other := rest.mp rfl
        omega
      rw [if_pos past]
      rfl

end Truncates

/-! ## Packing -/

theorem unpackSign_packComponents (sign : Sign) (exponent : BitVec 11) (mantissa : BitVec 52) :
    @unpackSign .binary64 (packComponents .binary64 sign exponent mantissa) = sign.toBitVec := by
  show (sign.toBitVec ++ exponent ++ mantissa).extractLsb' 63 1 = sign.toBitVec
  ext index bound
  grind

theorem ofBitVec_toBitVec (sign : Sign) : Sign.ofBitVec sign.toBitVec = sign := by
  cases sign <;> rfl

/-- The rank of a number that is packed from its fields. -/
theorem rank_of_pack {result : UnpackedFloat} {sign : Sign} {exponent : BitVec 11}
    {mantissa : BitVec 52} (packed : UnpackedFloat.pack .binary64 result =
      packComponents .binary64 sign exponent mantissa) :
    rank (Float.ofModel (Float.Model.pack result)) =
      sign.apply (exponent.toNat * leadingBit + mantissa.toNat : Nat) := by
  have fields := code_eq_fields (packComponents .binary64 sign exponent mantissa)
  have signed := apply_unpackSign (packComponents .binary64 sign exponent mantissa)
    (exponent.toNat * leadingBit + mantissa.toNat : Nat)
  rw [unpackExponent_packComponents, unpackMantissa_packComponents, ← packed] at fields
  rw [unpackSign_packComponents, ofBitVec_toBitVec, ← packed] at signed
  rw [signed, ← fields, rank, isNegative]
  simp only [decide_eq_true_eq]
  rfl

/-- The rank of a number with a significand and an exponent as words hold them, or with an
exponent past those of all finite numbers. -/
theorem rank_pack (sign : Sign) {mantissa : Nat} {exponent : Int} (positive : 0 < mantissa)
    (lowest : -1074 ≤ exponent) (room : mantissa < 2 * leadingBit)
    (full : exponent = -1074 ∨ leadingBit ≤ mantissa) :
    rank (Float.ofModel (Float.Model.pack (.finite sign mantissa exponent positive))) =
      sign.apply (min infinityCode ((exponent + 1074).toNat * leadingBit + mantissa) : Nat) := by
  have whole := Nat.mod_lt mantissa (y := 2 ^ 52) (by decide)
  by_cases bounded : exponent < 972
  · rcases Nat.lt_or_ge mantissa leadingBit with subnormal | normal
    · obtain rfl : exponent = -1074 := full.resolve_right (Nat.not_le.mpr subnormal)
      rw [rank_of_pack (pack_subnormal sign positive subnormal), BitVec.toNat_ofNat,
        BitVec.toNat_ofNat]
      congr 2
      simp only [leadingBit, infinityCode] at *
      omega
    · obtain ⟨place, rfl⟩ : ∃ place : Nat, exponent = place - 1075 :=
        ⟨(exponent + 1075).toNat, by omega⟩
      rw [rank_of_pack (pack_normal sign positive normal room (by omega)), BitVec.toNat_ofNat,
        BitVec.toNat_ofNat]
      congr 2
      simp only [leadingBit, infinityCode] at *
      omega
  · have overflow : 2 ^ 11 ≤ (exponent + (1023 : Nat) + (52 : Nat)).toNat + 1 := by omega
    have infinite : UnpackedFloat.pack .binary64 (.finite sign mantissa exponent positive) =
        packComponents .binary64 sign (-1) 0 := if_pos overflow
    have normal : leadingBit ≤ mantissa := full.resolve_left (by omega)
    have highest : (-1 : BitVec 11).toNat * leadingBit + (0 : BitVec 52).toNat = infinityCode := rfl
    have past : infinityCode ≤ (exponent + 1074).toNat * leadingBit + mantissa := by
      have places : 2046 ≤ (exponent + 1074).toNat := by omega
      exact Nat.add_le_add (Nat.mul_le_mul_right leadingBit places) normal
    rw [rank_of_pack infinite, highest, Nat.min_eq_left past]

theorem targetExponent_eq (mantissa : Nat) (exponent : Int) :
    Format.binary64.targetExponent (totalExponent mantissa exponent) =
      max (mantissa.log2 + exponent - 52) (-1074) := by
  have least : Format.binary64.minExponent = -1074 := rfl
  have bits : Format.binary64.mantissaBits = 53 := rfl
  rw [Format.targetExponent, totalExponent, least, bits]
  omega

/-- The unit of a quotient that was cut down to a mantissa. -/
theorem unitPower_of_div {numerator denominator mantissa : Nat} (exponent : Int)
    (mantissaPositive : 0 < mantissa) (positive : 0 < denominator)
    (whole : mantissa = numerator / denominator) :
    unitPower ((numerator : ℚ) / denominator * 2 ^ exponent) =
      Format.binary64.targetExponent (totalExponent mantissa exponent) := by
  have lower : (2 : ℚ) ^ (mantissa.log2 + exponent) ≤
      (numerator : ℚ) / denominator * 2 ^ exponent := by
    have below : ((2 ^ mantissa.log2 : Nat) : ℚ) ≤ mantissa := by
      exact_mod_cast Nat.log2_self_le (Nat.ne_of_gt mantissaPositive)
    have floor : (mantissa : ℚ) ≤ (numerator : ℚ) / denominator := by
      rw [whole]
      exact Nat.cast_div_le
    rw [zpow_add₀ two_ne_zero, zpow_natCast]
    gcongr
    exact_mod_cast below.trans floor
  have upper : (numerator : ℚ) / denominator * 2 ^ exponent <
      (2 : ℚ) ^ (mantissa.log2 + 1 + exponent) := by
    have next : numerator < 2 ^ (mantissa.log2 + 1) * denominator := by
      rw [← Nat.div_lt_iff_lt_mul positive, ← whole]
      exact Nat.lt_log2_self
    have ceiling : (numerator : ℚ) / denominator < 2 ^ (mantissa.log2 + 1) := by
      rw [div_lt_iff₀ (by exact_mod_cast positive)]
      exact_mod_cast next
    rw [zpow_add₀ two_ne_zero, ← Nat.cast_succ, zpow_natCast]
    gcongr
  have above : (0 : ℚ) < (numerator : ℚ) / denominator * 2 ^ exponent :=
    lt_of_lt_of_le (by positivity) lower
  rw [two_zpow_le_iff above] at lower
  rw [lt_two_zpow_iff above] at upper
  rw [unitPower, targetExponent_eq]
  omega

/-- A rounded mantissa stays as it is, or it was carried past its room and is halved. -/
def Carries (rounded : Nat) (exponent : Int) (final : ExtendedMantissa × Int) : Prop :=
  (final.1.mantissa = rounded ∧ final.2 = exponent ∧ rounded < 2 * leadingBit) ∨
    (final.1.mantissa = leadingBit ∧ final.2 = exponent + 1 ∧ rounded = 2 * leadingBit)

theorem carries_shift {rounded : Nat} {exponent : Int} (lowest : -1074 ≤ exponent)
    (room : rounded ≤ 2 * leadingBit) :
    Carries rounded exponent (shiftToTargetExponent .binary64 rounded exponent .exact) := by
  rcases Nat.lt_or_eq_of_le room with less | rfl
  · have short : rounded.log2 ≤ 52 := by
      rcases Nat.eq_zero_or_pos rounded with rfl | above
      · decide
      · exact Nat.le_of_lt_succ ((Nat.log2_lt (Nat.ne_of_gt above)).mpr less)
    have still : Format.binary64.targetExponent (totalExponent rounded exponent) ≤ exponent := by
      rw [targetExponent_eq]
      omega
    have amount : (Format.binary64.targetExponent (totalExponent rounded exponent) -
        exponent).toNat = 0 := by omega
    left
    simp only [shiftToTargetExponent, shiftToExponent, amount]
    exact ⟨rfl, Int.add_zero exponent, less⟩
  · have once : Format.binary64.targetExponent (totalExponent (2 * leadingBit) exponent) =
        exponent + 1 := by
      have length : (2 * leadingBit).log2 = 53 := by decide
      rw [targetExponent_eq, length]
      omega
    have amount : (exponent + 1 - exponent).toNat = 1 := by omega
    right
    simp only [shiftToTargetExponent, once, shiftToExponent, amount]
    exact ⟨rfl, rfl, trivial⟩

/-- What rounding makes of a significand, which may be zero at the lowest exponent. -/
theorem rank_pack_or_zero (sign : Sign) {mantissa : Nat} {exponent : Int}
    (lowest : -1074 ≤ exponent) (room : mantissa < 2 * leadingBit)
    (full : exponent = -1074 ∨ leadingBit ≤ mantissa) :
    rank (Float.ofModel (Float.Model.pack (if zero : mantissa = 0 then .zero sign else
        .finite sign mantissa exponent (Nat.pos_of_ne_zero zero)))) =
      sign.apply (min infinityCode ((exponent + 1074).toNat * leadingBit + mantissa) : Nat) := by
  by_cases zero : mantissa = 0
  · subst zero
    obtain rfl : exponent = -1074 := full.resolve_right (by decide)
    cases sign <;> rfl
  · rw [dif_neg zero]
    exact rank_pack sign (Nat.pos_of_ne_zero zero) lowest room full

/-- The rank of a rounded significand, also after a carry. -/
theorem Carries.rank_eq {rounded : Nat} {exponent : Int} {final : ExtendedMantissa × Int}
    (carries : Carries rounded exponent final) (sign : Sign) (lowest : -1074 ≤ exponent)
    (full : exponent = -1074 ∨ leadingBit ≤ rounded) :
    rank (Float.ofModel (Float.Model.pack (if zero : final.1.mantissa = 0 then .zero sign else
        .finite sign final.1.mantissa final.2 (Nat.pos_of_ne_zero zero)))) =
      sign.apply (min infinityCode ((exponent + 1074).toNat * leadingBit + rounded) : Nat) := by
  obtain ⟨⟨mantissa, roundBit, stickyBit⟩, place⟩ := final
  obtain ⟨rfl, rfl, room⟩ | ⟨rfl, rfl, rfl⟩ := carries
  · exact rank_pack_or_zero sign lowest room full
  · have codes : (exponent + 1 + 1074).toNat * leadingBit + leadingBit =
        (exponent + 1074).toNat * leadingBit + 2 * leadingBit := by
      simp only [leadingBit]
      omega
    rw [← codes]
    have room : leadingBit < 2 * leadingBit := by decide
    exact rank_pack_or_zero sign (Int.le_add_one lowest) room (.inr (Nat.le_refl _))

/-- Rounding packs the significand that the mantissa is rounded to. -/
theorem rank_of_rounded (sign : Sign) {mantissa rounded : Nat} {exponent target : Int}
    {accuracy : Accuracy}
    (significand : (shiftToTargetExponent .binary64 mantissa exponent accuracy).1.roundedMantissa =
      rounded)
    (unit : (shiftToTargetExponent .binary64 mantissa exponent accuracy).2 = target)
    (lowest : -1074 ≤ target) (room : rounded ≤ 2 * leadingBit)
    (full : target = -1074 ∨ leadingBit ≤ rounded) :
    rank (Float.ofModel (Float.Model.pack
        (roundWithAccuracy .binary64 sign mantissa exponent accuracy))) =
      sign.apply (min infinityCode ((target + 1074).toNat * leadingBit + rounded) : Nat) := by
  subst significand unit
  exact (carries_shift lowest room).rank_eq sign lowest full

/-- Rounding at the unit of a quotient gives the number nearest to the quotient. -/
theorem rank_roundWithAccuracy (sign : Sign) {mantissa numerator denominator : Nat} {exponent : Int}
    {accuracy : Accuracy} (numeratorPositive : 0 < numerator) (positive : 0 < denominator)
    (truncates : Truncates (.ofMantissaAndAccuracy mantissa accuracy) numerator denominator)
    (unit : unitPower ((numerator : ℚ) / denominator * 2 ^ exponent) =
      Format.binary64.targetExponent (totalExponent mantissa exponent))
    (fine : exponent ≤ Format.binary64.targetExponent (totalExponent mantissa exponent)) :
    rank (Float.ofModel (Float.Model.pack
        (roundWithAccuracy .binary64 sign mantissa exponent accuracy))) =
      nearestRank ((sign.apply numerator : Int) / denominator * 2 ^ exponent) := by
  have scaledPositive : 0 < numerator * Nat.pow 2 exponent.toNat :=
    Nat.mul_pos numeratorPositive (Nat.pow_pos (by decide))
  have scalePositive : 0 < denominator * Nat.pow 2 (-exponent).toNat :=
    Nat.mul_pos positive (Nat.pow_pos (by decide))
  obtain ⟨target, equal⟩ : ∃ target,
      Format.binary64.targetExponent (totalExponent mantissa exponent) = target := ⟨_, rfl⟩
  rw [equal, scaled_eq_div] at unit
  rw [equal] at fine
  have lowest : -1074 ≤ target := by
    rw [← equal, targetExponent_eq]
    exact le_max_right _ _
  have place : (shiftToTargetExponent .binary64 mantissa exponent accuracy).2 = target := by
    show exponent + (Format.binary64.targetExponent _ - exponent).toNat = target
    rw [equal]
    omega
  have rounded :
      (shiftToTargetExponent .binary64 mantissa exponent accuracy).1.roundedMantissa =
        roundDiv (numerator * Nat.pow 2 exponent.toNat * Nat.pow 2 (-target).toNat)
          (denominator * Nat.pow 2 (-exponent).toNat * Nat.pow 2 target.toNat) := by
    have scale : 0 < denominator * 2 ^ (target - exponent).toNat :=
      Nat.mul_pos positive (Nat.two_pow_pos _)
    rw [shiftToTargetExponent, equal, shiftToExponent,
      (truncates.shiftRight positive _).roundedMantissa_eq scale]
    apply roundDiv_congr scale
    · exact Nat.mul_pos scalePositive (Nat.pow_pos (by decide))
    · have powers : exponent.toNat + (-target).toNat + (target - exponent).toNat =
          (-exponent).toNat + target.toNat := by omega
      have products := congrArg (2 ^ ·) powers
      simp only [Nat.pow_add] at products
      simp only [Nat.pow_eq]
      calc numerator * (denominator * 2 ^ (-exponent).toNat * 2 ^ target.toNat)
          = numerator * denominator * (2 ^ (-exponent).toNat * 2 ^ target.toNat) := by ring
        _ = numerator * denominator *
              (2 ^ exponent.toNat * 2 ^ (-target).toNat * 2 ^ (target - exponent).toNat) := by
            rw [products]
        _ = numerator * 2 ^ exponent.toNat * 2 ^ (-target).toNat *
              (denominator * 2 ^ (target - exponent).toNat) := by ring
  have room := roundDiv_le_room scaledPositive scalePositive unit
  have full := leadingBit_le_of_unit scaledPositive scalePositive unit
  rw [nearestRank_scaled sign numerator positive, nearestCode_eq scaledPositive scalePositive unit]
  exact rank_of_rounded sign rounded place lowest room (or_iff_not_imp_left.mpr full)

end Lamplight.Decimal
