import Mathlib.Tactic.Ring
import Lamplight.Decimal.Numeral
import Lamplight.Proofs.Decimal.Order

/-!
# Where arithmetic gives no number

Every numeral is a number.  A difference of finite numbers is a number, and it is not negative when
the smaller one is taken from the larger one.  A quotient of numbers by a positive one is no number
only when both are infinite.  So overflow is the one way in which a quotient of differences is lost.
-/

namespace Lamplight.Decimal

open Float.Model Float.Model.UnpackedFloat

/-! ## Packed results -/

/-- A finite result is packed to a finite number, or to the infinity of its sign. -/
theorem pack_finite (sign : Sign) {mantissa : Nat} (exponent : Int) (positive : 0 < mantissa) :
    UnpackedFloat.pack .binary64 (.finite sign mantissa exponent positive) =
        packedInfinity .binary64 sign ∨
      (UnpackedFloat.unpack .binary64
        (UnpackedFloat.pack .binary64 (.finite sign mantissa exponent positive))).isFinite =
          true := by
  by_cases overflow : 2 ^ 11 ≤ (exponent + (1023 : Nat) + (52 : Nat)).toNat + 1
  · exact .inl (if_pos overflow)
  · right
    rw [isFinite_unpack_iff]
    by_cases normal : mantissa.log2 + 1 = 53
    · have packed : UnpackedFloat.pack .binary64 (.finite sign mantissa exponent positive) =
          packComponents .binary64 sign
            (BitVec.ofNat 11 (exponent + (1023 : Nat) + (52 : Nat)).toNat)
            (BitVec.ofNat 52 mantissa) := (if_neg overflow).trans (if_pos normal)
      rw [packed, unpackExponent_packComponents, BitVec.toNat_ofNat]
      exact Nat.lt_of_le_of_lt (Nat.mod_le _ _) (by omega)
    · have packed : UnpackedFloat.pack .binary64 (.finite sign mantissa exponent positive) =
          packComponents .binary64 sign 0#11 (BitVec.ofNat 52 mantissa) :=
        (if_neg overflow).trans (if_neg normal)
      rw [packed, unpackExponent_packComponents]
      decide

theorem isFinite_eq_not (number : UnpackedFloat) :
    number.isFinite = (!number.isNaN && !number.isInf) := by
  cases number <;> rfl

/-- Packing loses no number and makes none. -/
theorem isNaN_pack (result : UnpackedFloat) :
    (Float.ofModel (Float.Model.pack result)).isNaN = result.isNaN := by
  show (UnpackedFloat.unpack .binary64 (UnpackedFloat.pack .binary64 result)).isNaN = _
  cases result with
  | notANumber => rfl
  | infinity sign => cases sign <;> rfl
  | zero sign => cases sign <;> rfl
  | finite sign mantissa exponent positive =>
    rcases pack_finite sign exponent positive with infinite | finite
    · rw [infinite]
      cases sign <;> rfl
    · rw [isFinite_eq_not, Bool.and_eq_true, Bool.not_eq_true'] at finite
      exact finite.1

/-! ## Numerals -/

/-- The words up to the one of infinity are numbers. -/
theorem isNaN_unpack {bits : BitVec 64} (bounded : bits.toNat % signBit ≤ infinityCode) :
    (UnpackedFloat.unpack .binary64 bits).isNaN = false := by
  rw [code_eq_fields, infinityCode, leadingBit] at bounded
  have unpacked := unpacks_unpack bits
  generalize UnpackedFloat.unpack .binary64 bits = result at unpacked ⊢
  cases unpacked with
  | notANumber highest nonzero =>
    have exponent : (@unpackExponent .binary64 bits).toNat = 2047 := by
      rw [highest]
      rfl
    have mantissa : (@unpackMantissa .binary64 bits).toNat = 0 := by omega
    exact absurd (BitVec.eq_of_toNat_eq mantissa) nonzero
  | infinity _ _ => rfl
  | zero _ _ => rfl
  | subnormal _ _ => rfl
  | normal _ _ _ => rfl

theorem isNaN_ofCode (negative : Bool) {code : Nat} (bounded : code ≤ infinityCode) :
    (ofCode negative code).isNaN = false := by
  refine (isNaN_pack _).trans (isNaN_unpack ?_)
  rw [infinityCode] at bounded
  show (UInt64.ofNat _).toNat % signBit ≤ infinityCode
  rw [UInt64.toNat_ofNat', signBit, infinityCode]
  cases negative <;> simp <;> omega

theorem nearestCode_le (numerator denominator : Nat) :
    nearestCode numerator denominator ≤ infinityCode := by
  rw [nearestCode]
  split
  · exact Nat.zero_le _
  · exact Nat.min_le_left _ _

/-- Every numeral is a number, if an infinite one. -/
theorem Numeral.isNaN_value (numeral : Numeral) : numeral.value.isNaN = false := by
  apply isNaN_ofCode
  rw [codeOfDecimal]
  split
  · exact Nat.zero_le _
  split
  · exact Nat.le_refl _
  split
  · exact Nat.zero_le _
  · exact nearestCode_le _ _

/-! ## Rounding -/

/-- A number that is finite before it is packed and not below zero. -/
inductive NotNegative : UnpackedFloat → Prop
  | zero (sign : Sign) : NotNegative (.zero sign)
  | finite (mantissa : Nat) (exponent : Int) (positive : 0 < mantissa) :
      NotNegative (.finite .positive mantissa exponent positive)

/-- Rounding gives a zero or a finite number, of the sign that it is told. -/
theorem roundWithAccuracy_cases (sign : Sign) (mantissa : Nat) (exponent : Int)
    (accuracy : Accuracy) :
    roundWithAccuracy .binary64 sign mantissa exponent accuracy = .zero sign ∨
      ∃ final place positive, roundWithAccuracy .binary64 sign mantissa exponent accuracy =
        .finite sign final place positive := by
  have choice : ∀ (final : Nat) (place : Int),
      (if zero : final = 0 then .zero sign else
        .finite sign final place (Nat.pos_of_ne_zero zero) : UnpackedFloat) = .zero sign ∨
      ∃ other otherPlace positive, (if zero : final = 0 then .zero sign else
        .finite sign final place (Nat.pos_of_ne_zero zero) : UnpackedFloat) =
          .finite sign other otherPlace positive := by
    intro final place
    by_cases zero : final = 0
    · exact .inl (dif_pos zero)
    · exact .inr ⟨final, place, _, dif_neg zero⟩
  exact choice _ _

theorem notNegative_roundWithAccuracy (mantissa : Nat) (exponent : Int) (accuracy : Accuracy) :
    NotNegative (roundWithAccuracy .binary64 .positive mantissa exponent accuracy) := by
  rcases roundWithAccuracy_cases .positive mantissa exponent accuracy with zero | ⟨_, _, _, finite⟩
  · rw [zero]
    exact .zero _
  · rw [finite]
    exact .finite _ _ _

/-- What is not below zero is rounded to a number that is not, either. -/
theorem notNegative_normalize {value : Int} (nonneg : 0 ≤ value) (exponent : Int) :
    NotNegative (UnpackedFloat.normalize .binary64 value exponent .positive) := by
  unfold UnpackedFloat.normalize
  rcases Int.lt_or_eq_of_le nonneg with above | rfl
  · rw [Int.compare_eq_gt.mpr above]
    exact notNegative_roundWithAccuracy _ _ _
  · exact .zero _

namespace NotNegative

variable {result : UnpackedFloat}

theorem isNaN_eq_false (notNegative : NotNegative result) : result.isNaN = false := by
  cases notNegative with
  | zero sign => rfl
  | finite mantissa exponent positive => rfl

/-- When such a result overflows, it does so upwards. -/
theorem pos_of_isInf (notNegative : NotNegative result)
    (infinite : (Float.ofModel (Float.Model.pack result)).isInf = true) :
    0 < Float.ofModel (Float.Model.pack result) := by
  cases notNegative with
  | zero sign => cases sign <;> cases infinite
  | finite mantissa exponent positive =>
    rcases pack_finite .positive exponent positive with packed | finite
    · have infinity :
          Float.ofModel (Float.Model.pack (.finite .positive mantissa exponent positive)) =
            Float.ofModel (Float.Model.pack (.infinity .positive)) :=
        ofModel_congr (congrArg UInt64.ofBitVec packed)
      rw [infinity]
      decide
    · rw [isFinite_eq_not, Bool.and_eq_true, Bool.not_eq_true', Bool.not_eq_true'] at finite
      cases infinite.symm.trans finite.2

end NotNegative

/-! ## Differences -/

/-- Two numbers are in the order of their digits at a common lower exponent. -/
theorem Fits.aligned_le {mantissa otherMantissa : Nat} {exponent otherExponent lower : Int}
    (fits : Fits mantissa exponent) (other : Fits otherMantissa otherExponent)
    (below : lower ≤ exponent) (otherBelow : lower ≤ otherExponent)
    (ordered : (exponent + 1074) * (leadingBit : Int) + mantissa ≤
      (otherExponent + 1074) * (leadingBit : Int) + otherMantissa) :
    (decreaseExponent mantissa exponent lower).1 ≤
      (decreaseExponent otherMantissa otherExponent lower).1 := by
  obtain ⟨lowest, room, full, -⟩ := fits
  obtain ⟨otherLowest, otherRoom, otherFull, -⟩ := other
  simp only [decreaseExponent, Nat.shiftLeft_eq]
  rcases Int.lt_trichotomy exponent otherExponent with less | rfl | greater
  · obtain ⟨more, equal⟩ : ∃ more,
        (otherExponent - lower).toNat = (exponent - lower).toNat + (more + 1) :=
      ⟨(otherExponent - exponent).toNat - 1, by omega⟩
    have double : mantissa ≤ otherMantissa * 2 := by omega
    have enough : mantissa ≤ otherMantissa * 2 * 2 ^ more :=
      Nat.le_trans double (Nat.le_mul_of_pos_right _ (Nat.two_pow_pos more))
    calc mantissa * 2 ^ (exponent - lower).toNat
        ≤ otherMantissa * 2 * 2 ^ more * 2 ^ (exponent - lower).toNat :=
          Nat.mul_le_mul_right _ enough
      _ = otherMantissa * 2 ^ (otherExponent - lower).toNat := by
          rw [equal, Nat.pow_add, Nat.pow_succ]
          ring
  · have same : mantissa ≤ otherMantissa := by omega
    exact Nat.mul_le_mul_right _ same
  · simp only [leadingBit] at *
    omega

/-- A number less one that is not larger is not below zero. -/
theorem notNegative_sub {left right : UnpackedFloat} (leftCanonical : Canonical left)
    (rightCanonical : Canonical right) (leftFinite : left.isFinite = true)
    (rightFinite : right.isFinite = true) (ordered : rankOf left ≤ rankOf right) :
    NotNegative (UnpackedFloat.sub .binary64 right left) := by
  cases right with
  | notANumber => cases rightFinite
  | infinity rightSign => cases rightFinite
  | zero rightSign =>
    cases left with
    | notANumber => cases leftFinite
    | infinity leftSign => cases leftFinite
    | zero leftSign => cases rightSign <;> cases leftSign <;> exact .zero _
    | finite leftSign leftMantissa leftExponent leftPositive =>
      cases leftSign with
      | negative => exact .finite _ _ _
      | positive =>
        exact absurd ordered (Int.not_le.mpr (leftCanonical.rankOf_positive leftPositive))
  | finite rightSign rightMantissa rightExponent rightPositive =>
    cases left with
    | notANumber => cases leftFinite
    | infinity leftSign => cases leftFinite
    | zero leftSign =>
      cases rightSign with
      | negative =>
        exact absurd ordered (Int.not_le.mpr (rightCanonical.rankOf_negative rightPositive))
      | positive => exact .finite _ _ _
    | finite leftSign leftMantissa leftExponent leftPositive =>
      apply notNegative_normalize
      have belowRight : min rightExponent leftExponent ≤ rightExponent := Int.min_le_left _ _
      have belowLeft : min rightExponent leftExponent ≤ leftExponent := Int.min_le_right _ _
      cases rightSign with
      | negative =>
        cases leftSign with
        | negative =>
          have aligned := Fits.aligned_le rightCanonical leftCanonical belowRight belowLeft
            (Int.neg_le_neg_iff.mp ordered)
          show 0 ≤ -((decreaseExponent rightMantissa rightExponent _).1 : Int) -
            -((decreaseExponent leftMantissa leftExponent _).1 : Int)
          omega
        | positive =>
          have below := rightCanonical.rankOf_negative rightPositive
          have above := leftCanonical.rankOf_positive leftPositive
          omega
      | positive =>
        cases leftSign with
        | negative =>
          show 0 ≤ ((decreaseExponent rightMantissa rightExponent _).1 : Int) -
            -((decreaseExponent leftMantissa leftExponent _).1 : Int)
          omega
        | positive =>
          have aligned := Fits.aligned_le leftCanonical rightCanonical belowLeft belowRight ordered
          show 0 ≤ ((decreaseExponent rightMantissa rightExponent _).1 : Int) -
            ((decreaseExponent leftMantissa leftExponent _).1 : Int)
          omega

/-! ## Quotients -/

theorem isNaN_roundWithAccuracy (sign : Sign) (mantissa : Nat) (exponent : Int)
    (accuracy : Accuracy) :
    (roundWithAccuracy .binary64 sign mantissa exponent accuracy).isNaN = false := by
  rcases roundWithAccuracy_cases sign mantissa exponent accuracy with zero | ⟨_, _, _, finite⟩
  · rw [zero]
    rfl
  · rw [finite]
    rfl

theorem isNaN_div {numerator denominator : UnpackedFloat} (isNumber : numerator.isNaN = false)
    (positive : UnpackedFloat.lt (.zero .positive) denominator = true) :
    (UnpackedFloat.div .binary64 numerator denominator).isNaN = true ↔
      numerator.isInf = true ∧ denominator.isInf = true := by
  cases denominator with
  | notANumber => cases positive
  | zero sign => cases positive
  | infinity sign =>
    cases numerator with
    | notANumber => cases isNumber
    | infinity sign => exact iff_of_true rfl ⟨rfl, rfl⟩
    | zero sign => exact iff_of_false Bool.false_ne_true fun both => nomatch both.1
    | finite sign mantissa exponent _ =>
      exact iff_of_false Bool.false_ne_true fun both => nomatch both.1
  | finite sign mantissa exponent _ =>
    refine iff_of_false ?_ fun both => nomatch both.2
    rw [Bool.not_eq_true]
    cases numerator with
    | notANumber => cases isNumber
    | infinity sign => rfl
    | zero sign => rfl
    | finite sign mantissa exponent _ => exact isNaN_roundWithAccuracy _ _ _ _

section Numbers

variable {left right numerator denominator : Float}

theorem isFinite_eq_false {number : Float} (infinite : number.isInf = true) :
    number.isFinite = false := by
  refine (isFinite_eq_not number.toModel.unpack).trans ?_
  rw [show number.toModel.unpack.isInf = true from infinite, Bool.not_true, Bool.and_false]

theorem notNegative_difference (leftFinite : left.isFinite = true)
    (rightFinite : right.isFinite = true) (ordered : left ≤ right) :
    NotNegative (UnpackedFloat.sub .binary64 right.toModel.unpack left.toModel.unpack) := by
  obtain ⟨leftCanonical, leftRank⟩ := canonical_unpack (isNaN_eq_false leftFinite)
  obtain ⟨rightCanonical, rightRank⟩ := canonical_unpack (isNaN_eq_false rightFinite)
  rw [le_iff_rank_le (isNaN_eq_false leftFinite) (isNaN_eq_false rightFinite), ← leftRank,
    ← rightRank] at ordered
  exact notNegative_sub leftCanonical rightCanonical leftFinite rightFinite ordered

/-- A smaller number taken from a larger one leaves a number. -/
theorem isNaN_sub (leftFinite : left.isFinite = true) (rightFinite : right.isFinite = true)
    (ordered : left ≤ right) : (right - left).isNaN = false :=
  (isNaN_pack _).trans (notNegative_difference leftFinite rightFinite ordered).isNaN_eq_false

/-- Where such a difference overflows, it does so upwards. -/
theorem pos_of_isInf_sub (leftFinite : left.isFinite = true) (rightFinite : right.isFinite = true)
    (ordered : left ≤ right) : (right - left).isInf = true → 0 < right - left :=
  (notNegative_difference leftFinite rightFinite ordered).pos_of_isInf

/-- A quotient by a number above zero is no number only where both are infinite. -/
theorem isNaN_div_iff (isNumber : numerator.isNaN = false) (positive : 0 < denominator) :
    (numerator / denominator).isNaN = true ↔
      numerator.isInf = true ∧ denominator.isInf = true := by
  have above : UnpackedFloat.lt (.zero .positive) denominator.toModel.unpack = true :=
    of_decide_eq_true positive
  have quotient := isNaN_div isNumber above
  rwa [← isNaN_pack] at quotient

end Numbers

end Lamplight.Decimal
