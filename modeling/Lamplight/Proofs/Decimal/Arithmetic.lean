import Lamplight.Proofs.Decimal.Rounding

/-!
# Arithmetic gives the nearest number

A sum, a difference, a product or a quotient of finite numbers is the number nearest to the exact
result: its rank is the nearest rank of what the same operation gives in the rationals (`rank_add`,
`rank_sub`, `rank_mul` and `rank_div`).  So arithmetic keeps the order of numbers, if not strictly.
-/

namespace Lamplight.Decimal

open Float.Model Float.Model.UnpackedFloat

/-! ## Unpacked numbers -/

theorem apply_neg (sign : Sign) (value : Int) : (-sign).apply value = -sign.apply value := by
  cases sign with
  | positive => rfl
  | negative => exact (Int.neg_neg value).symm

theorem apply_mul (sign other : Sign) (left right : Int) :
    (sign * other).apply (left * right) = sign.apply left * other.apply right := by
  cases sign <;> cases other
  · exact (Int.neg_mul_neg left right).symm
  · exact (Int.neg_mul left right).symm
  · exact (Int.mul_neg left right).symm
  · rfl

theorem apply_div (sign other : Sign) (left right : Nat) :
    (((sign / other).apply left : Int) : ℚ) / right =
      (sign.apply left : Int) / (other.apply right : Int) := by
  cases sign <;> cases other
  · show ((left : Int) : ℚ) / right = (-(left : Int) : Int) / (-(right : Int) : Int)
    push_cast
    exact (neg_div_neg_eq _ _).symm
  · show ((-(left : Int) : Int) : ℚ) / right = (-(left : Int) : Int) / (right : Int)
    rw [Int.cast_natCast]
  · show ((-(left : Int) : Int) : ℚ) / right = (left : Int) / (-(right : Int) : Int)
    push_cast
    rw [neg_div, div_neg]
  · show ((left : Int) : ℚ) / right = (left : Int) / (right : Int)
    rw [Int.cast_natCast, Int.cast_natCast]

/-- What is the same of two mantissas is the same of them with a sign. -/
theorem apply_scaled (sign : Sign) {mantissa other : Nat} {scale otherScale : ℚ}
    (same : mantissa * scale = other * otherScale) :
    ((sign.apply mantissa : Int) : ℚ) * scale = (sign.apply other : Int) * otherScale := by
  cases sign with
  | positive => exact same
  | negative =>
    simp only [Sign.apply, Int.cast_neg, Int.cast_natCast, neg_mul, neg_inj]
    exact same

/-- What an unpacked number stands for; zero stands in for what is not finite. -/
def exactOf : UnpackedFloat → ℚ
  | .finite sign mantissa exponent _ => (sign.apply mantissa : Int) * 2 ^ exponent
  | _ => 0

theorem exactOf_finite (sign : Sign) {mantissa : Nat} (exponent : Int) (positive : 0 < mantissa) :
    exactOf (.finite sign mantissa exponent positive) =
      (sign.apply mantissa : Int) * 2 ^ exponent := rfl

section Rounding

variable (sign : Sign) {mantissa : Nat}

/-- The unit that a mantissa is rounded to depends on what it stands for only. -/
theorem unitPower_scaled (positive : 0 < mantissa) (exponent : Int) :
    unitPower (mantissa * 2 ^ exponent) =
      Format.binary64.targetExponent (totalExponent mantissa exponent) := by
  rw [← unitPower_of_div exponent positive Nat.one_pos (Nat.div_one mantissa).symm, Nat.cast_one,
    div_one]

theorem rank_roundExact (positive : 0 < mantissa) {exponent : Int}
    (fine : exponent ≤ Format.binary64.targetExponent (totalExponent mantissa exponent)) :
    rank (Float.ofModel (Float.Model.pack
        (roundWithAccuracy .binary64 sign mantissa exponent .exact))) =
      nearestRank ((sign.apply mantissa : Int) * 2 ^ exponent) := by
  have unit := unitPower_of_div exponent positive Nat.one_pos (Nat.div_one mantissa).symm
  rw [rank_roundWithAccuracy sign positive Nat.one_pos (.of_exact mantissa) unit fine, Nat.cast_one,
    div_one]

/-- A mantissa at a lower exponent stands for the same. -/
theorem decreaseExponent_eq (mantissa : Nat) (exponent lower : Int) :
    ((decreaseExponent mantissa exponent lower).1 : ℚ) *
        2 ^ (decreaseExponent mantissa exponent lower).2 = mantissa * 2 ^ exponent := by
  generalize equal : (exponent - lower).toNat = places
  have powers : (2 : ℚ) ^ exponent = 2 ^ places * 2 ^ (exponent - places) := by
    rw [← zpow_natCast, ← zpow_add₀ two_ne_zero, add_sub_cancel]
  simp only [decreaseExponent, equal, Nat.shiftLeft_eq]
  rw [powers]
  push_cast
  ring

theorem rank_round (positive : 0 < mantissa) (exponent : Int) :
    rank (Float.ofModel (Float.Model.pack (UnpackedFloat.round .binary64 sign mantissa exponent))) =
      nearestRank ((sign.apply mantissa : Int) * 2 ^ exponent) := by
  unfold UnpackedFloat.round
  have target := unitPower_scaled positive exponent
  generalize Format.binary64.targetExponent (totalExponent mantissa exponent) = lower at target ⊢
  have same := decreaseExponent_eq mantissa exponent lower
  have lowered : (decreaseExponent mantissa exponent lower).2 ≤ lower := by
    show exponent - (exponent - lower).toNat ≤ lower
    omega
  have shifted : 0 < (decreaseExponent mantissa exponent lower).1 := by
    show 0 < mantissa <<< _
    rw [Nat.shiftLeft_eq]
    exact Nat.mul_pos positive (Nat.two_pow_pos _)
  refine (rank_roundExact sign shifted ?_).trans ?_
  · have unit := (unitPower_scaled shifted _).symm.trans ((congrArg unitPower same).trans target)
    exact lowered.trans_eq unit.symm
  · exact congrArg nearestRank (apply_scaled sign same)

theorem rank_normalize (value exponent : Int) :
    rank (Float.ofModel (Float.Model.pack
        (UnpackedFloat.normalize .binary64 value exponent .positive))) =
      nearestRank (value * 2 ^ exponent) := by
  unfold UnpackedFloat.normalize
  rcases Int.lt_trichotomy value 0 with below | rfl | above
  · rw [Int.compare_eq_lt.mpr below]
    refine (rank_round .negative (by omega) exponent).trans ?_
    rw [show Sign.negative.apply ((-value).toNat : Int) = value by simp only [Sign.apply]; omega]
  · rw [Int.cast_zero, zero_mul]
    rfl
  · rw [Int.compare_eq_gt.mpr above]
    refine (rank_round .positive (by omega) exponent).trans ?_
    rw [show Sign.positive.apply (value.toNat : Int) = value by simp only [Sign.apply]; omega]

end Rounding

namespace Fits

variable {mantissa : Nat} {exponent : Int}

/-- The code of a number as words hold it. -/
theorem code_lt (fits : Fits mantissa exponent) :
    (exponent + 1074).toNat * leadingBit + mantissa < infinityCode := by
  obtain ⟨lowest, -, -, bounded⟩ := fits
  simp only [leadingBit, infinityCode] at *
  omega

theorem rational_eq (fits : Fits mantissa exponent) :
    rational ((exponent + 1074).toNat * leadingBit + mantissa) = mantissa * 2 ^ exponent := by
  obtain ⟨lowest, room, full, -⟩ := fits
  have whole : significand ((exponent + 1074).toNat * leadingBit + mantissa) = mantissa := by
    rw [significand]
    split
    all_goals
      simp only [leadingBit] at *
      omega
  have power : binaryExponent ((exponent + 1074).toNat * leadingBit + mantissa) = exponent := by
    rw [binaryExponent]
    split
    all_goals
      simp only [leadingBit] at *
      omega
  rw [rational, whole, power]

theorem rankOf_eq (fits : Fits mantissa exponent) (sign : Sign) (positive : 0 < mantissa) :
    rankOf (.finite sign mantissa exponent positive) =
      sign.apply ((exponent + 1074).toNat * leadingBit + mantissa : Nat) := by
  have lowest := fits.lowest
  refine congrArg sign.apply ?_
  rw [leadingBit]
  omega

end Fits

section Operations

variable {left right number : UnpackedFloat}

/-- A finite number is the one nearest to what it stands for. -/
theorem nearestRank_exactOf (canonical : Canonical number) (finite : number.isFinite = true) :
    nearestRank (exactOf number) = rankOf number := by
  cases number with
  | notANumber => cases finite
  | infinity sign => cases finite
  | zero sign => rfl
  | finite sign mantissa exponent positive =>
    have scale : 0 < 1 * Nat.pow 2 (-exponent).toNat :=
      Nat.mul_pos Nat.one_pos (Nat.pow_pos (by decide))
    have scaled := scaled_eq_div mantissa 1 exponent
    have nearest := nearestRank_scaled sign mantissa Nat.one_pos exponent
    rw [Nat.cast_one, div_one] at scaled nearest
    rw [nearestCode_rational scale (Fits.code_lt canonical)
      (scaled.symm.trans (Fits.rational_eq canonical).symm)] at nearest
    exact nearest.trans (Fits.rankOf_eq canonical sign positive).symm

/-- What a number stands for can be told from its rank. -/
theorem exactOf_eq_rational (canonical : Canonical number) (finite : number.isFinite = true) :
    exactOf number = (rankOf number).sign * rational (rankOf number).natAbs := by
  cases number with
  | notANumber => cases finite
  | infinity sign => cases finite
  | zero sign => exact (zero_mul _).symm
  | finite sign mantissa exponent positive =>
    have above := Fits.rankOf_positive canonical positive
    have scaled := Fits.rational_eq canonical
    rw [Fits.rankOf_eq canonical .positive positive] at above
    rw [Fits.rankOf_eq canonical sign positive]
    cases sign with
    | positive =>
      rw [Int.sign_eq_one_of_pos above, Int.cast_one, one_mul]
      exact scaled.symm
    | negative =>
      have below :
          Sign.negative.apply ((exponent + 1074).toNat * leadingBit + mantissa : Nat) < 0 :=
        Int.neg_neg_of_pos above
      rw [Int.sign_eq_neg_one_of_neg below]
      rw [exactOf_finite]
      simp only [Sign.apply, Int.natAbs_neg, Int.natAbs_natCast, scaled]
      push_cast
      ring

theorem rank_pack_zero (sign : Sign) :
    rank (Float.ofModel (Float.Model.pack (.zero sign))) = nearestRank 0 := by
  cases sign <;> rfl

theorem rank_pack_canonical (canonical : Canonical number) (finite : number.isFinite = true) :
    rank (Float.ofModel (Float.Model.pack number)) = nearestRank (exactOf number) := by
  rw [nearestRank_exactOf canonical finite]
  cases number with
  | notANumber => cases finite
  | infinity sign => cases finite
  | zero sign => cases sign <;> rfl
  | finite sign mantissa exponent positive =>
    rw [rank_pack sign positive canonical.lowest canonical.room canonical.full,
      Nat.min_eq_right (Nat.le_of_lt (Fits.code_lt canonical))]
    exact (Fits.rankOf_eq canonical sign positive).symm

/-- A signed mantissa at a lower exponent stands for the same. -/
theorem apply_decreaseExponent (sign : Sign) (mantissa : Nat) {exponent lower : Int}
    (below : lower ≤ exponent) :
    ((sign.apply (decreaseExponent mantissa exponent lower).1 : Int) : ℚ) * 2 ^ lower =
      (sign.apply mantissa : Int) * 2 ^ exponent := by
  have same := decreaseExponent_eq mantissa exponent lower
  have lowered : (decreaseExponent mantissa exponent lower).2 = lower := by
    show exponent - (exponent - lower).toNat = lower
    omega
  rw [lowered] at same
  exact apply_scaled sign same

/-- A packed sum is the number nearest to the exact one. -/
theorem rank_pack_add (leftCanonical : Canonical left) (rightCanonical : Canonical right)
    (leftFinite : left.isFinite = true) (rightFinite : right.isFinite = true) :
    rank (Float.ofModel (Float.Model.pack (UnpackedFloat.add .binary64 left right))) =
      nearestRank (exactOf left + exactOf right) := by
  cases left with
  | notANumber => cases leftFinite
  | infinity leftSign => cases leftFinite
  | zero leftSign =>
    rw [show exactOf (.zero leftSign) = 0 from rfl, zero_add]
    cases right with
    | notANumber => cases rightFinite
    | infinity rightSign => cases rightFinite
    | zero rightSign => cases leftSign <;> cases rightSign <;> rfl
    | finite rightSign mantissa exponent positive =>
      exact rank_pack_canonical rightCanonical rightFinite
  | finite leftSign leftMantissa leftExponent leftPositive =>
    cases right with
    | notANumber => cases rightFinite
    | infinity rightSign => cases rightFinite
    | zero rightSign =>
      rw [show exactOf (.zero rightSign) = 0 from rfl, add_zero]
      exact rank_pack_canonical leftCanonical leftFinite
    | finite rightSign rightMantissa rightExponent rightPositive =>
      have leftScaled := apply_decreaseExponent leftSign leftMantissa
        (Int.min_le_left leftExponent rightExponent)
      have rightScaled := apply_decreaseExponent rightSign rightMantissa
        (Int.min_le_right leftExponent rightExponent)
      refine (rank_normalize _ _).trans (congrArg nearestRank ?_)
      rw [Int.cast_add, add_mul]
      exact congrArg₂ (· + ·) leftScaled rightScaled

/-- A difference is a sum with the negated number. -/
theorem sub_eq_add (left right : UnpackedFloat) :
    UnpackedFloat.sub .binary64 left right = UnpackedFloat.add .binary64 left right.neg := by
  cases left with
  | notANumber => rfl
  | infinity leftSign => cases right <;> rfl
  | zero leftSign => cases right <;> rfl
  | finite leftSign leftMantissa leftExponent leftPositive =>
    cases right with
    | notANumber => rfl
    | infinity rightSign => rfl
    | zero rightSign => rfl
    | finite rightSign rightMantissa rightExponent rightPositive =>
      show UnpackedFloat.normalize .binary64 (_ - _) _ _ =
        UnpackedFloat.normalize .binary64 (_ + (-rightSign).apply _) _ _
      rw [apply_neg, Int.sub_eq_add_neg]

theorem Canonical.neg (canonical : Canonical number) : Canonical number.neg := by
  cases number <;> exact canonical

theorem isFinite_neg (number : UnpackedFloat) : number.neg.isFinite = number.isFinite := by
  cases number <;> rfl

theorem exactOf_neg (number : UnpackedFloat) : exactOf number.neg = -exactOf number := by
  cases number with
  | notANumber => rfl
  | infinity sign => rfl
  | zero sign => rfl
  | finite sign mantissa exponent positive =>
    have negated : exactOf (UnpackedFloat.finite sign mantissa exponent positive).neg =
        ((-sign).apply mantissa : Int) * 2 ^ exponent := rfl
    rw [negated, exactOf_finite, apply_neg, Int.cast_neg, neg_mul]

theorem rank_pack_sub (leftCanonical : Canonical left) (rightCanonical : Canonical right)
    (leftFinite : left.isFinite = true) (rightFinite : right.isFinite = true) :
    rank (Float.ofModel (Float.Model.pack (UnpackedFloat.sub .binary64 left right))) =
      nearestRank (exactOf left - exactOf right) := by
  rw [sub_eq_add, rank_pack_add leftCanonical rightCanonical.neg leftFinite
    ((isFinite_neg right).trans rightFinite), exactOf_neg, ← sub_eq_add_neg]

/-- The digits of a product are enough for rounding. -/
theorem Fits.mul_fine {mantissa otherMantissa : Nat} {exponent otherExponent : Int}
    (fits : Fits mantissa exponent) (other : Fits otherMantissa otherExponent)
    (positive : 0 < mantissa) (otherPositive : 0 < otherMantissa) :
    exponent + otherExponent ≤ Format.binary64.targetExponent
      (totalExponent (mantissa * otherMantissa) (exponent + otherExponent)) := by
  rw [targetExponent_eq]
  by_cases both : exponent = -1074 ∧ otherExponent = -1074
  · omega
  · have full : 2 ^ 52 ≤ mantissa * otherMantissa := by
      rcases fits.full with lowest | normal
      · have otherNormal := other.full.resolve_left fun otherLowest => both ⟨lowest, otherLowest⟩
        exact otherNormal.trans (Nat.le_mul_of_pos_left _ positive)
      · exact normal.trans (Nat.le_mul_of_pos_right _ otherPositive)
    have digits := (Nat.le_log2 (Nat.ne_of_gt (Nat.mul_pos positive otherPositive))).mpr full
    omega

/-- A packed product is the number nearest to the exact one. -/
theorem rank_pack_mul (leftCanonical : Canonical left) (rightCanonical : Canonical right)
    (leftFinite : left.isFinite = true) (rightFinite : right.isFinite = true) :
    rank (Float.ofModel (Float.Model.pack (UnpackedFloat.mul .binary64 left right))) =
      nearestRank (exactOf left * exactOf right) := by
  cases left with
  | notANumber => cases leftFinite
  | infinity leftSign => cases leftFinite
  | zero leftSign =>
    rw [show exactOf (.zero leftSign) = 0 from rfl, zero_mul]
    cases right with
    | notANumber => cases rightFinite
    | infinity rightSign => cases rightFinite
    | zero rightSign => exact rank_pack_zero _
    | finite rightSign mantissa exponent positive => exact rank_pack_zero _
  | finite leftSign leftMantissa leftExponent leftPositive =>
    cases right with
    | notANumber => cases rightFinite
    | infinity rightSign => cases rightFinite
    | zero rightSign =>
      rw [show exactOf (.zero rightSign) = 0 from rfl, mul_zero]
      exact rank_pack_zero _
    | finite rightSign rightMantissa rightExponent rightPositive =>
      refine (rank_roundExact _ (Nat.mul_pos leftPositive rightPositive)
        (Fits.mul_fine leftCanonical rightCanonical leftPositive rightPositive)).trans ?_
      rw [Int.natCast_mul, apply_mul, zpow_add₀ two_ne_zero, Int.cast_mul, mul_mul_mul_comm]
      rfl

/-- How large a quotient of mantissas is at least. -/
theorem le_log_div {mantissa otherMantissa : Nat} (exponent : Int) (positive : 0 < mantissa)
    (otherPositive : 0 < otherMantissa) :
    (mantissa.log2 : Int) - (otherMantissa.log2 + 1) + exponent ≤
      Int.log 2 ((mantissa : ℚ) / otherMantissa * 2 ^ exponent) := by
  have quotientPositive : (0 : ℚ) < (mantissa : ℚ) / otherMantissa * 2 ^ exponent := by positivity
  have above : (2 : ℚ) ^ mantissa.log2 ≤ mantissa := by
    exact_mod_cast Nat.log2_self_le (Nat.ne_of_gt positive)
  have below : (otherMantissa : ℚ) ≤ 2 ^ (otherMantissa.log2 + 1) := by
    exact_mod_cast Nat.le_of_lt (Nat.lt_log2_self (n := otherMantissa))
  rw [← two_zpow_le_iff quotientPositive, zpow_add₀ two_ne_zero, zpow_sub₀ two_ne_zero,
    ← Nat.cast_succ, zpow_natCast, zpow_natCast]
  gcongr

/-- The whole digits of a quotient are enough to tell the unit that it is rounded to, if none of
them is below the unit. -/
theorem unitPower_of_enough {numerator denominator : Nat} (positive : 0 < numerator)
    (denominatorPositive : 0 < denominator) {target : Int}
    (enough : target ≤ unitPower ((numerator : ℚ) / denominator * 2 ^ target)) :
    unitPower ((numerator : ℚ) / denominator * 2 ^ target) =
      Format.binary64.targetExponent (totalExponent (numerator / denominator) target) := by
  rcases Nat.eq_zero_or_pos (numerator / denominator) with zero | above
  · -- Without a digit the quotient lies below the unit, so that the unit is the lowest one.
    have less : numerator < denominator := (Nat.div_eq_zero_iff_lt denominatorPositive).mp zero
    have small : (numerator : ℚ) / denominator * 2 ^ target < 2 ^ target := by
      apply mul_lt_of_lt_one_left (by positivity)
      rw [div_lt_one (by exact_mod_cast denominatorPositive)]
      exact_mod_cast less
    rw [lt_two_zpow_iff (by positivity)] at small
    have none : Nat.log2 0 = 0 := rfl
    rw [unitPower] at enough ⊢
    rw [targetExponent_eq, zero, none]
    omega
  · exact unitPower_of_div target above denominatorPositive rfl

/-- The digits of a quotient are enough for rounding: the leading one is among them, unless it lies
below the lowest exponent. -/
theorem rank_divCore (sign : Sign) {mantissa otherMantissa : Nat} (exponent otherExponent : Int)
    (positive : 0 < mantissa) (otherPositive : 0 < otherMantissa) :
    let core := divCore .binary64 mantissa exponent otherMantissa otherExponent
    rank (Float.ofModel (Float.Model.pack
        (roundWithAccuracy .binary64 sign core.1 core.2.1 core.2.2))) =
      nearestRank ((sign.apply mantissa : Int) / otherMantissa *
        2 ^ (exponent - otherExponent)) := by
  intro core
  obtain ⟨target, equal⟩ : ∃ target, min (exponent - otherExponent)
      (Format.binary64.targetExponent
        (totalExponent mantissa exponent - totalExponent otherMantissa otherExponent)) = target :=
    ⟨_, rfl⟩
  have limit : target ≤ exponent - otherExponent ∧ target ≤ max (mantissa.log2 + exponent -
      (otherMantissa.log2 + otherExponent) - 53) (-1074) := by
    have least : Format.binary64.minExponent = -1074 := rfl
    have bits : Format.binary64.mantissaBits = 53 := rfl
    rw [Format.targetExponent, totalExponent, totalExponent, least, bits] at equal
    omega
  obtain ⟨places, placed⟩ : ∃ places : Nat, exponent - otherExponent - target = places :=
    ⟨(exponent - otherExponent - target).toNat, by omega⟩
  have shift : (2 : ℚ) ^ (exponent - otherExponent) = 2 ^ places * 2 ^ target := by
    rw [← zpow_natCast, ← zpow_add₀ two_ne_zero, ← placed, sub_add_cancel]
  have same : ((mantissa * 2 ^ places : Nat) : ℚ) / otherMantissa * 2 ^ target =
      (mantissa : ℚ) / otherMantissa * 2 ^ (exponent - otherExponent) := by
    rw [shift]
    push_cast
    ring
  have shiftedPositive : 0 < mantissa * 2 ^ places := Nat.mul_pos positive (Nat.two_pow_pos places)
  have size := le_log_div (exponent - otherExponent) positive otherPositive
  have enough : target ≤
      unitPower (((mantissa * 2 ^ places : Nat) : ℚ) / otherMantissa * 2 ^ target) := by
    rw [same, unitPower]
    omega
  have unit := unitPower_of_enough shiftedPositive otherPositive enough
  have fine := enough.trans_eq unit
  have rounded := rank_roundWithAccuracy sign shiftedPositive otherPositive
    (.of_div _ otherPositive) unit fine
  have opened : core = (mantissa * 2 ^ places / otherMantissa, target,
      accuracyOfFraction (mantissa * 2 ^ places % otherMantissa) otherMantissa) := by
    simp only [core, divCore, equal, placed, Int.toNat_natCast, Nat.shiftLeft_eq]
  rw [opened]
  refine rounded.trans (congrArg nearestRank ?_)
  rw [div_mul_eq_mul_div, div_mul_eq_mul_div, mul_div_assoc, mul_div_assoc] at same ⊢
  exact apply_scaled sign same

/-- A packed quotient is the number nearest to the exact one. -/
theorem rank_pack_div (leftFinite : left.isFinite = true) (rightFinite : right.isFinite = true)
    (nonzero : exactOf right ≠ 0) :
    rank (Float.ofModel (Float.Model.pack (UnpackedFloat.div .binary64 left right))) =
      nearestRank (exactOf left / exactOf right) := by
  cases right with
  | notANumber => cases rightFinite
  | infinity rightSign => cases rightFinite
  | zero rightSign => exact absurd rfl nonzero
  | finite rightSign rightMantissa rightExponent rightPositive =>
    cases left with
    | notANumber => cases leftFinite
    | infinity leftSign => cases leftFinite
    | zero leftSign =>
      rw [show exactOf (.zero leftSign) = 0 from rfl, zero_div]
      exact rank_pack_zero _
    | finite leftSign leftMantissa leftExponent leftPositive =>
      refine (rank_divCore _ leftExponent rightExponent leftPositive rightPositive).trans
        (congrArg nearestRank ?_)
      rw [exactOf_finite, exactOf_finite, mul_div_mul_comm, ← zpow_sub₀ two_ne_zero, apply_div]

theorem isNaN_normalize (value exponent : Int) :
    (UnpackedFloat.normalize .binary64 value exponent .positive).isNaN = false := by
  unfold UnpackedFloat.normalize
  split
  · exact isNaN_roundWithAccuracy _ _ _ _
  · rfl
  · exact isNaN_roundWithAccuracy _ _ _ _

/-- Finite numbers have a sum. -/
theorem isNaN_addOf (leftFinite : left.isFinite = true) (rightFinite : right.isFinite = true) :
    (UnpackedFloat.add .binary64 left right).isNaN = false := by
  cases left with
  | notANumber => cases leftFinite
  | infinity leftSign => cases leftFinite
  | zero leftSign =>
    cases right with
    | notANumber => cases rightFinite
    | infinity rightSign => cases rightFinite
    | zero rightSign => cases leftSign <;> cases rightSign <;> rfl
    | finite rightSign mantissa exponent positive => rfl
  | finite leftSign leftMantissa leftExponent leftPositive =>
    cases right with
    | notANumber => cases rightFinite
    | infinity rightSign => cases rightFinite
    | zero rightSign => rfl
    | finite rightSign rightMantissa rightExponent rightPositive => exact isNaN_normalize _ _

/-- Finite numbers have a product. -/
theorem isNaN_mulOf (leftFinite : left.isFinite = true) (rightFinite : right.isFinite = true) :
    (UnpackedFloat.mul .binary64 left right).isNaN = false := by
  cases left with
  | notANumber => cases leftFinite
  | infinity leftSign => cases leftFinite
  | zero leftSign =>
    cases right with
    | notANumber => cases rightFinite
    | infinity rightSign => cases rightFinite
    | zero rightSign => rfl
    | finite rightSign mantissa exponent positive => rfl
  | finite leftSign leftMantissa leftExponent leftPositive =>
    cases right with
    | notANumber => cases rightFinite
    | infinity rightSign => cases rightFinite
    | zero rightSign => rfl
    | finite rightSign rightMantissa rightExponent rightPositive =>
      exact isNaN_roundWithAccuracy _ _ _ _

end Operations

/-! ## Numbers -/

/-- What a number stands for; zero stands in for what is not finite. -/
def exactValue (number : Float) : ℚ := exactOf number.toModel.unpack

section Numbers

variable {left right number : Float}

theorem rank_eq_nearestRank (finite : number.isFinite = true) :
    rank number = nearestRank (exactValue number) := by
  obtain ⟨canonical, equal⟩ := canonical_unpack (isNaN_eq_false finite)
  exact equal.symm.trans (nearestRank_exactOf canonical finite).symm

section Finite

variable (leftFinite : left.isFinite = true) (rightFinite : right.isFinite = true)
include leftFinite rightFinite

theorem rank_add : rank (left + right) = nearestRank (exactValue left + exactValue right) :=
  rank_pack_add (canonical_unpack (isNaN_eq_false leftFinite)).1
    (canonical_unpack (isNaN_eq_false rightFinite)).1 leftFinite rightFinite

theorem rank_sub : rank (left - right) = nearestRank (exactValue left - exactValue right) :=
  rank_pack_sub (canonical_unpack (isNaN_eq_false leftFinite)).1
    (canonical_unpack (isNaN_eq_false rightFinite)).1 leftFinite rightFinite

theorem rank_mul : rank (left * right) = nearestRank (exactValue left * exactValue right) :=
  rank_pack_mul (canonical_unpack (isNaN_eq_false leftFinite)).1
    (canonical_unpack (isNaN_eq_false rightFinite)).1 leftFinite rightFinite

theorem rank_div (nonzero : exactValue right ≠ 0) :
    rank (left / right) = nearestRank (exactValue left / exactValue right) :=
  rank_pack_div leftFinite rightFinite nonzero

theorem isNaN_add : (left + right).isNaN = false :=
  (isNaN_pack _).trans (isNaN_addOf leftFinite rightFinite)

theorem isNaN_difference : (left - right).isNaN = false := by
  refine (isNaN_pack _).trans ?_
  rw [sub_eq_add]
  exact isNaN_addOf leftFinite ((isFinite_neg _).trans rightFinite)

theorem isNaN_mul : (left * right).isNaN = false :=
  (isNaN_pack _).trans (isNaN_mulOf leftFinite rightFinite)

/-- Numbers are in the order of what they stand for. -/
theorem le_iff_exactValue_le : left ≤ right ↔ exactValue left ≤ exactValue right := by
  obtain ⟨leftCanonical, leftRank⟩ := canonical_unpack (isNaN_eq_false leftFinite)
  obtain ⟨rightCanonical, rightRank⟩ := canonical_unpack (isNaN_eq_false rightFinite)
  rw [le_iff_rank_le (isNaN_eq_false leftFinite) (isNaN_eq_false rightFinite)]
  constructor
  · intro ordered
    by_contra! above
    have reversed := nearestRank_mono (le_of_lt above)
    rw [← rank_eq_nearestRank leftFinite, ← rank_eq_nearestRank rightFinite] at reversed
    have same : rankOf left.toModel.unpack = rankOf right.toModel.unpack := by omega
    apply ne_of_lt above
    rw [exactValue, exactValue, exactOf_eq_rational leftCanonical leftFinite,
      exactOf_eq_rational rightCanonical rightFinite, same]
  · intro ordered
    rw [rank_eq_nearestRank leftFinite, rank_eq_nearestRank rightFinite]
    exact nearestRank_mono ordered

end Finite

variable {constant : Float}

theorem isNaN_quotient (leftFinite : left.isFinite = true) (rightFinite : right.isFinite = true)
    (positive : 0 < right) : (left / right).isNaN = false := by
  rw [← Bool.not_eq_true, isNaN_div_iff (isNaN_eq_false leftFinite) positive]
  intro both
  exact Bool.false_ne_true ((isFinite_eq_false both.2).symm.trans rightFinite)

theorem exactValue_zero : exactValue 0 = 0 := rfl

theorem exactValue_pos (finite : number.isFinite = true) (positive : 0 < number) :
    0 < exactValue number := by
  by_contra! notAbove
  have below : number ≤ 0 := (le_iff_exactValue_le finite (by decide)).mpr notAbove
  exact (not_lt_iff_le (by decide) (isNaN_eq_false finite)).mpr below positive

/-- Results are in the order of the exact results that they are nearest to. -/
theorem le_of_nearest {exactLeft exactRight : ℚ} (leftNumber : left.isNaN = false)
    (rightNumber : right.isNaN = false) (leftNearest : rank left = nearestRank exactLeft)
    (rightNearest : rank right = nearestRank exactRight) (ordered : exactLeft ≤ exactRight) :
    left ≤ right := by
  rw [le_iff_rank_le leftNumber rightNumber, leftNearest, rightNearest]
  exact nearestRank_mono ordered

section Monotone

variable (constantFinite : constant.isFinite = true) (leftFinite : left.isFinite = true)
  (rightFinite : right.isFinite = true) (ordered : left ≤ right)
include constantFinite leftFinite rightFinite ordered

theorem add_le_add_left : constant + left ≤ constant + right := by
  rw [le_iff_exactValue_le leftFinite rightFinite] at ordered
  exact le_of_nearest (isNaN_add constantFinite leftFinite) (isNaN_add constantFinite rightFinite)
    (rank_add constantFinite leftFinite) (rank_add constantFinite rightFinite) (by gcongr)

theorem sub_le_sub_right : left - constant ≤ right - constant := by
  rw [le_iff_exactValue_le leftFinite rightFinite] at ordered
  exact le_of_nearest (isNaN_difference leftFinite constantFinite)
    (isNaN_difference rightFinite constantFinite) (rank_sub leftFinite constantFinite)
    (rank_sub rightFinite constantFinite) (by gcongr)

theorem mul_le_mul_left (nonneg : 0 ≤ constant) : constant * left ≤ constant * right := by
  have above : 0 ≤ exactValue constant :=
    (le_iff_exactValue_le (by decide) constantFinite).mp nonneg
  rw [le_iff_exactValue_le leftFinite rightFinite] at ordered
  exact le_of_nearest (isNaN_mul constantFinite leftFinite) (isNaN_mul constantFinite rightFinite)
    (rank_mul constantFinite leftFinite) (rank_mul constantFinite rightFinite) (by gcongr)

theorem mul_le_mul_right (nonneg : 0 ≤ constant) : left * constant ≤ right * constant := by
  have above : 0 ≤ exactValue constant :=
    (le_iff_exactValue_le (by decide) constantFinite).mp nonneg
  rw [le_iff_exactValue_le leftFinite rightFinite] at ordered
  exact le_of_nearest (isNaN_mul leftFinite constantFinite) (isNaN_mul rightFinite constantFinite)
    (rank_mul leftFinite constantFinite) (rank_mul rightFinite constantFinite) (by gcongr)

theorem div_le_div_right (positive : 0 < constant) : left / constant ≤ right / constant := by
  have above : 0 < exactValue constant := exactValue_pos constantFinite positive
  rw [le_iff_exactValue_le leftFinite rightFinite] at ordered
  exact le_of_nearest (isNaN_quotient leftFinite constantFinite positive)
    (isNaN_quotient rightFinite constantFinite positive)
    (rank_div leftFinite constantFinite (ne_of_gt above))
    (rank_div rightFinite constantFinite (ne_of_gt above)) (by gcongr)

end Monotone

/-- The quotient of a number by a larger one is a fraction of one. -/
theorem quotient_between (leftFinite : left.isFinite = true) (rightFinite : right.isFinite = true)
    (nonneg : 0 ≤ left) (ordered : left ≤ right) (positive : 0 < right) :
    0 ≤ left / right ∧ left / right ≤ 1 := by
  have isNumber := isNaN_quotient leftFinite rightFinite positive
  have above := exactValue_pos rightFinite positive
  have nearest := rank_div leftFinite rightFinite (ne_of_gt above)
  rw [le_iff_exactValue_le (by decide) leftFinite, exactValue_zero] at nonneg
  rw [le_iff_exactValue_le leftFinite rightFinite] at ordered
  constructor
  · have zero : rank 0 = nearestRank 0 := by decide
    exact le_of_nearest (by decide) isNumber zero nearest (div_nonneg nonneg (le_of_lt above))
  · have one : rank 1 = nearestRank 1 := by decide
    exact le_of_nearest isNumber (by decide) nearest one ((div_le_one above).mpr ordered)

section Words

variable (word : UInt64)

theorem isNaN_toFloat : word.toFloat.isNaN = false := (isNaN_pack _).trans (isNaN_normalize _ _)

/-- A word becomes the nearest number. -/
theorem rank_toFloat : rank word.toFloat = nearestRank word.toNat := by
  refine (rank_normalize word.toNat 0).trans ?_
  rw [zpow_zero, mul_one, Int.cast_natCast]

theorem zero_le_toFloat : 0 ≤ word.toFloat := by
  rw [le_iff_rank_le (by decide) (isNaN_toFloat word), rank_toFloat]
  exact nearestRank_mono (Nat.cast_nonneg word.toNat)

theorem toFloat_le_toFloat {word other : UInt64} (ordered : word ≤ other) :
    word.toFloat ≤ other.toFloat := by
  exact le_of_nearest (isNaN_toFloat word) (isNaN_toFloat other) (rank_toFloat word)
    (rank_toFloat other) (Nat.cast_le.mpr (UInt64.le_iff_toNat_le.mp ordered))

theorem isFinite_toFloat : word.toFloat.isFinite = true := by
  have largest : word ≤ -1 := UInt64.le_iff_toNat_le.mpr (Nat.le_of_lt_succ word.toNat_lt)
  exact isFinite_of_between (by decide) (by decide) (zero_le_toFloat word)
    (toFloat_le_toFloat largest)

end Words

/-- What is written as a whole number is the number nearest to it. -/
theorem rank_ofNat (whole : Nat) : rank (Float.ofNat whole) = nearestRank whole := by
  by_cases small : whole < 2 ^ 53
  · have one : exactValue 1 = 1 := by decide +kernel
    have fast : Float.ofNat whole = whole.toUInt64.toFloat * 1 := dif_pos ⟨small, by decide⟩
    have word : whole.toUInt64.toNat = whole := Nat.mod_eq_of_lt (by omega)
    rw [fast, rank_mul (isFinite_toFloat _) (by decide), one, mul_one,
      ← rank_eq_nearestRank (isFinite_toFloat _), rank_toFloat, word]
  · have positive : 0 < whole * 2 ^ 53 := by omega
    have digits : 53 ≤ (whole * 2 ^ 53).log2 := (Nat.le_log2 (Nat.ne_of_gt positive)).mpr (by omega)
    have slow : Float.ofNat whole = Float.ofModel (Float.Model.pack
        (roundWithAccuracy .binary64 .positive (whole * 2 ^ 53) (-53) .exact)) := by
      have nonzero : whole ≠ 0 := by omega
      have bounds : ¬(0 : Int) > 2 ^ 11 ∧ ¬(0 : Int) < -(2 ^ 11 + whole.log2) := by omega
      have scientific : UnpackedFloat.ofScientific .binary64 whole 0 =
          roundWithAccuracy .binary64 .positive (whole <<< 53 * 1) (-53 + 0) .exact :=
        (dif_neg nonzero).trans ((if_neg bounds.1).trans
          ((if_neg bounds.2).trans (if_pos (Int.le_refl 0))))
      rw [Nat.mul_one, Nat.shiftLeft_eq] at scientific
      exact (dif_neg fun fast => small fast.1).trans
        (congrArg (fun result => Float.ofModel (Float.Model.pack result)) scientific)
    rw [slow, rank_roundExact .positive positive (by rw [targetExponent_eq]; omega)]
    congr 1
    show ((whole * 2 ^ 53 : Nat) : ℚ) * 2 ^ (-53 : Int) = whole
    rw [Nat.cast_mul, mul_assoc]
    norm_num

end Numbers

end Lamplight.Decimal
