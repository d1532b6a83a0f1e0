import Mathlib.Algebra.Order.Ring.Int
import Mathlib.Data.Bool.Basic
import Lamplight.Proofs.Decimal.Bits

/-!
# The order of numbers

Two numbers that are numbers compare as their codes do, taken below zero where the sign is set.  So
they have the laws of the order of whole numbers; zero and minus zero have the same rank, and what
is no number compares with nothing.
-/

namespace Lamplight.Decimal

open Float.Model Float.Model.UnpackedFloat

/-- The rank of a number among all numbers: its code, below zero where the sign is set. -/
def rank (number : Float) : Int :=
  if isNegative number then -(codeOf number : Int) else codeOf number

/-! ## Unpacked numbers -/

/-- A significand with an exponent as a word holds them: there is room for the significand, and it
has fewer bits only at the lowest exponent. -/
structure Fits (mantissa : Nat) (exponent : Int) : Prop where
  lowest : -1074 ≤ exponent
  room : mantissa < 2 * leadingBit
  full : exponent = -1074 ∨ leadingBit ≤ mantissa
  bounded : (exponent + 1074) * leadingBit + mantissa < infinityCode

/-- A number as it is unpacked from a word. -/
def Canonical : UnpackedFloat → Prop
  | .notANumber => False
  | .infinity _ => True
  | .zero _ => True
  | .finite _ mantissa exponent _ => Fits mantissa exponent

/-- The rank of an unpacked number. -/
def rankOf : UnpackedFloat → Int
  | .notANumber => 0
  | .infinity sign => sign.apply infinityCode
  | .zero _ => 0
  | .finite sign mantissa exponent _ => sign.apply ((exponent + 1074) * leadingBit + mantissa)

theorem rankOf_finite (sign : Sign) {mantissa : Nat} (exponent : Int) (positive : 0 < mantissa) :
    rankOf (.finite sign mantissa exponent positive) =
      sign.apply ((exponent + 1074) * leadingBit + mantissa) := rfl

namespace Fits

variable {mantissa : Nat} {exponent : Int} {sign : Sign}

/-- A fraction below the smallest number with a leading bit. -/
theorem subnormal (room : mantissa < leadingBit) : Fits mantissa (-1074) := by
  refine ⟨Int.le_refl _, ?_, .inl rfl, ?_⟩
  · omega
  · simp only [leadingBit, infinityCode] at *
    omega

/-- A fraction after the leading bit, with the exponent of a finite word. -/
theorem normal {place : Nat} (room : mantissa < leadingBit) (above : place ≠ 0)
    (below : place < 2047) : Fits (leadingBit + mantissa) (place - 1075) := by
  constructor
  · omega
  · omega
  · exact .inr (Nat.le_add_right _ _)
  · simp only [leadingBit, infinityCode] at *
    omega

theorem rank_positive (fits : Fits mantissa exponent) (positive : 0 < mantissa) :
    0 < (exponent + 1074) * (leadingBit : Int) + mantissa := by
  have lowest := fits.lowest
  rw [leadingBit]
  omega

/-- A finite number ranks between the two infinities. -/
theorem rankOf_between (fits : Fits mantissa exponent) (positive : 0 < mantissa) :
    -(infinityCode : Int) < rankOf (.finite sign mantissa exponent positive) ∧
      rankOf (.finite sign mantissa exponent positive) < infinityCode := by
  have above := fits.rank_positive positive
  have below := fits.bounded
  rw [rankOf_finite]
  cases sign <;> simp only [Sign.apply] <;> omega

theorem rankOf_negative (fits : Fits mantissa exponent) (positive : 0 < mantissa) :
    rankOf (.finite .negative mantissa exponent positive) < 0 :=
  Int.neg_neg_of_pos (fits.rank_positive positive)

theorem rankOf_positive (fits : Fits mantissa exponent) (positive : 0 < mantissa) :
    0 < rankOf (.finite .positive mantissa exponent positive) :=
  fits.rank_positive positive

/-- Of two numbers, the one with the higher exponent is larger, and at one exponent the one with
the larger significand. -/
theorem compare_eq {otherMantissa : Nat} {otherExponent : Int} (fits : Fits mantissa exponent)
    (other : Fits otherMantissa otherExponent) :
    (compare exponent otherExponent).then (compare mantissa otherMantissa) =
      compare ((exponent + 1074) * (leadingBit : Int) + mantissa)
        ((otherExponent + 1074) * (leadingBit : Int) + otherMantissa) := by
  obtain ⟨lowest, room, full, -⟩ := fits
  obtain ⟨otherLowest, otherRoom, otherFull, -⟩ := other
  simp only [leadingBit] at *
  rcases Int.lt_trichotomy exponent otherExponent with less | rfl | greater
  · rw [Int.compare_eq_lt.mpr less, Ordering.lt_then]
    exact (Int.compare_eq_lt.mpr (by omega)).symm
  · rw [Int.compare_eq_eq.mpr rfl, Ordering.eq_then]
    rcases Nat.lt_trichotomy mantissa otherMantissa with less | rfl | greater
    · rw [Nat.compare_eq_lt.mpr less]
      exact (Int.compare_eq_lt.mpr (by omega)).symm
    · rw [Nat.compare_eq_eq.mpr rfl]
      exact (Int.compare_eq_eq.mpr rfl).symm
    · rw [Nat.compare_eq_gt.mpr greater]
      exact (Int.compare_eq_gt.mpr (by omega)).symm
  · rw [Int.compare_eq_gt.mpr greater, Ordering.gt_then]
    exact (Int.compare_eq_gt.mpr (by omega)).symm

end Fits

theorem compare_neg_neg (left right : Int) : compare (-left) (-right) = compare right left := by
  simp only [Int.compare_eq_ite_lt, Int.neg_lt_neg_iff]

/-- Unpacked numbers compare as their ranks do. -/
theorem compare_eq_compare_rankOf {left right : UnpackedFloat} (leftCanonical : Canonical left)
    (rightCanonical : Canonical right) :
    UnpackedFloat.compare left right = some (compare (rankOf left) (rankOf right)) := by
  have lt : rankOf left < rankOf right →
      some Ordering.lt = some (compare (rankOf left) (rankOf right)) :=
    fun less => congrArg some (Int.compare_eq_lt.mpr less).symm
  have gt : rankOf right < rankOf left →
      some Ordering.gt = some (compare (rankOf left) (rankOf right)) :=
    fun greater => congrArg some (Int.compare_eq_gt.mpr greater).symm
  cases left with
  | notANumber => exact leftCanonical.elim
  | infinity leftSign =>
    cases right with
    | notANumber => exact rightCanonical.elim
    | infinity rightSign => cases leftSign <;> cases rightSign <;> rfl
    | zero rightSign => cases leftSign <;> rfl
    | finite rightSign mantissa exponent positive =>
      cases leftSign with
      | negative => exact lt (rightCanonical.rankOf_between positive).1
      | positive => exact gt (rightCanonical.rankOf_between positive).2
  | zero leftSign =>
    cases right with
    | notANumber => exact rightCanonical.elim
    | infinity rightSign => cases rightSign <;> rfl
    | zero rightSign => rfl
    | finite rightSign mantissa exponent positive =>
      cases rightSign with
      | negative => exact gt (rightCanonical.rankOf_negative positive)
      | positive => exact lt (rightCanonical.rankOf_positive positive)
  | finite leftSign leftMantissa leftExponent leftPositive =>
    cases right with
    | notANumber => exact rightCanonical.elim
    | infinity rightSign =>
      cases rightSign with
      | negative => exact gt (leftCanonical.rankOf_between leftPositive).1
      | positive => exact lt (leftCanonical.rankOf_between leftPositive).2
    | zero rightSign =>
      cases leftSign with
      | negative => exact lt (leftCanonical.rankOf_negative leftPositive)
      | positive => exact gt (leftCanonical.rankOf_positive leftPositive)
    | finite rightSign rightMantissa rightExponent rightPositive =>
      have magnitudes := Fits.compare_eq leftCanonical rightCanonical
      cases leftSign with
      | negative =>
        have below := leftCanonical.rankOf_negative leftPositive
        cases rightSign with
        | negative =>
          refine congrArg some ((congrArg Ordering.swap magnitudes).trans ?_)
          rw [Int.compare_swap]
          exact (compare_neg_neg _ _).symm
        | positive => exact lt (Int.lt_trans below (rightCanonical.rankOf_positive rightPositive))
      | positive =>
        have above := leftCanonical.rankOf_positive leftPositive
        cases rightSign with
        | negative => exact gt (Int.lt_trans (rightCanonical.rankOf_negative rightPositive) above)
        | positive => exact congrArg some magnitudes

/-- What is no number compares with nothing. -/
theorem compare_eq_none {left right : UnpackedFloat}
    (undefined : left.isNaN = true ∨ right.isNaN = true) :
    UnpackedFloat.compare left right = none := by
  rcases undefined with undefined | undefined
  · cases left with
    | notANumber => rfl
    | infinity sign => cases undefined
    | zero sign => cases undefined
    | finite sign mantissa exponent positive => cases undefined
  · cases right with
    | notANumber => cases left <;> rfl
    | infinity sign => cases undefined
    | zero sign => cases undefined
    | finite sign mantissa exponent positive => cases undefined

/-! ## Words -/

section Words

variable (bits : BitVec 64)

theorem toNat_unpackMantissa :
    (@unpackMantissa .binary64 bits).toNat = bits.toNat % 2 ^ 52 := by
  simp [unpackMantissa, BitVec.extractLsb, BitVec.extractLsb'_toNat]

theorem toNat_unpackSign : (@unpackSign .binary64 bits).toNat = bits.toNat / 2 ^ 63 := by
  have bound := bits.isLt
  show (bits.extractLsb' 63 1).toNat = bits.toNat / 2 ^ 63
  rw [BitVec.extractLsb'_toNat, Nat.shiftRight_eq_div_pow]
  omega

/-- The sign of a word is its highest bit. -/
theorem apply_unpackSign (magnitude : Int) :
    (Sign.ofBitVec (@unpackSign .binary64 bits)).apply magnitude =
      if signBit ≤ bits.toNat then -magnitude else magnitude := by
  have sign := toNat_unpackSign bits
  rw [signBit]
  split
  · next negative =>
    have one : @unpackSign .binary64 bits ≠ 0#1 := by
      intro zero
      rw [zero, BitVec.toNat_zero] at sign
      omega
    rw [Sign.ofBitVec, if_neg one]
    rfl
  · next positive =>
    have zero : @unpackSign .binary64 bits = 0#1 := by
      apply BitVec.eq_of_toNat_eq
      rw [sign, BitVec.toNat_zero]
      omega
    rw [Sign.ofBitVec, if_pos zero]
    rfl

/-- The two parts of a word below its sign make up its code. -/
theorem code_eq_fields : bits.toNat % signBit =
    (@unpackExponent .binary64 bits).toNat * leadingBit +
      (@unpackMantissa .binary64 bits).toNat := by
  rw [toNat_unpackExponent, toNat_unpackMantissa, signBit, leadingBit]
  omega

/-- A word is no number, or it is unpacked to a number that ranks as its code. -/
theorem unpack_canonical : UnpackedFloat.unpack .binary64 bits = .notANumber ∨
    Canonical (UnpackedFloat.unpack .binary64 bits) ∧
      rankOf (UnpackedFloat.unpack .binary64 bits) =
        (Sign.ofBitVec (@unpackSign .binary64 bits)).apply (bits.toNat % signBit : Nat) := by
  have room : (@unpackMantissa .binary64 bits).toNat < leadingBit := BitVec.isLt _
  have unpacked := unpacks_unpack bits
  rw [code_eq_fields]
  generalize UnpackedFloat.unpack .binary64 bits = result at unpacked ⊢
  cases unpacked with
  | infinity highest zero =>
    right
    refine ⟨trivial, congrArg (Sign.apply _) ?_⟩
    rw [highest, zero]
    rfl
  | notANumber highest nonzero => exact .inl rfl
  | zero lowest zero =>
    right
    refine ⟨trivial, ?_⟩
    rw [lowest, zero, BitVec.toNat_zero, BitVec.toNat_zero, Nat.zero_mul, Nat.zero_add]
    cases Sign.ofBitVec (@unpackSign .binary64 bits) <;> rfl
  | subnormal lowest positive =>
    right
    rw [lowest, BitVec.toNat_zero, Nat.zero_mul, Nat.zero_add]
    refine ⟨.subnormal room, congrArg (Sign.apply _) ?_⟩
    show (-1074 + 1074) * (leadingBit : Int) + _ = _
    omega
  | normal bound above positive =>
    right
    have leading := toNat_one_append (@unpackMantissa .binary64 bits)
    refine ⟨?_, congrArg (Sign.apply _) ?_⟩
    · show Fits (1#1 ++ @unpackMantissa .binary64 bits).toNat
        ((@unpackExponent .binary64 bits).toNat - 1075)
      rw [leading]
      exact .normal room above bound
    · show ((@unpackExponent .binary64 bits).toNat - 1075 + 1074) * (leadingBit : Int) +
        (1#1 ++ @unpackMantissa .binary64 bits).toNat = _
      rw [leading]
      simp only [leadingBit]
      push_cast
      omega

end Words

/-! ## Numbers -/

section Numbers

variable {left right number : Float}

/-- A number that is one is unpacked to a number of its rank. -/
theorem canonical_unpack (isNumber : number.isNaN = false) :
    Canonical number.toModel.unpack ∧ rankOf number.toModel.unpack = rank number := by
  rcases unpack_canonical number.toBits.toBitVec with none | ⟨canonical, equal⟩
  · change number.toModel.unpack.isNaN = false at isNumber
    change number.toModel.unpack = .notANumber at none
    rw [none] at isNumber
    cases isNumber
  · refine ⟨canonical, equal.trans ?_⟩
    rw [apply_unpackSign, rank, isNegative]
    simp only [decide_eq_true_eq]
    rfl

theorem lt_iff_compare : left < right ↔
    UnpackedFloat.compare left.toModel.unpack right.toModel.unpack = some .lt := by
  show decide ((UnpackedFloat.compare _ _ == some .lt) = true) = true ↔ _
  rw [decide_eq_true_iff, beq_iff_eq]

theorem le_iff_compare : left ≤ right ↔
    (UnpackedFloat.compare left.toModel.unpack right.toModel.unpack).any (·.isLE) = true :=
  decide_eq_true_iff

theorem beq_iff_compare : (left == right) = true ↔
    UnpackedFloat.compare left.toModel.unpack right.toModel.unpack = some .eq := by
  show (UnpackedFloat.compare _ _ == some .eq) = true ↔ _
  rw [beq_iff_eq]

theorem lt_iff_rank_lt (leftNumber : left.isNaN = false) (rightNumber : right.isNaN = false) :
    left < right ↔ rank left < rank right := by
  obtain ⟨leftCanonical, leftRank⟩ := canonical_unpack leftNumber
  obtain ⟨rightCanonical, rightRank⟩ := canonical_unpack rightNumber
  rw [lt_iff_compare, compare_eq_compare_rankOf leftCanonical rightCanonical, leftRank, rightRank,
    Option.some_inj, Int.compare_eq_lt]

theorem le_iff_rank_le (leftNumber : left.isNaN = false) (rightNumber : right.isNaN = false) :
    left ≤ right ↔ rank left ≤ rank right := by
  obtain ⟨leftCanonical, leftRank⟩ := canonical_unpack leftNumber
  obtain ⟨rightCanonical, rightRank⟩ := canonical_unpack rightNumber
  rw [le_iff_compare, compare_eq_compare_rankOf leftCanonical rightCanonical, leftRank, rightRank,
    Option.any_some, Int.isLE_compare]

theorem beq_iff_rank_eq (leftNumber : left.isNaN = false) (rightNumber : right.isNaN = false) :
    (left == right) = true ↔ rank left = rank right := by
  obtain ⟨leftCanonical, leftRank⟩ := canonical_unpack leftNumber
  obtain ⟨rightCanonical, rightRank⟩ := canonical_unpack rightNumber
  rw [beq_iff_compare, compare_eq_compare_rankOf leftCanonical rightCanonical, leftRank, rightRank,
    Option.some_inj, Int.compare_eq_eq]

/-- Numbers that are compared are numbers. -/
theorem isNumber_of_compare {order : Ordering}
    (compared : UnpackedFloat.compare left.toModel.unpack right.toModel.unpack = some order) :
    left.isNaN = false ∧ right.isNaN = false := by
  rw [← Bool.not_eq_true, ← Bool.not_eq_true, ← not_or]
  intro undefined
  rw [compare_eq_none undefined] at compared
  cases compared

theorem isNumber_of_lt (less : left < right) : left.isNaN = false ∧ right.isNaN = false :=
  isNumber_of_compare (lt_iff_compare.mp less)

theorem isNumber_of_le (lessEqual : left ≤ right) : left.isNaN = false ∧ right.isNaN = false := by
  rw [le_iff_compare, Option.any_eq_true] at lessEqual
  obtain ⟨order, compared, -⟩ := lessEqual
  exact isNumber_of_compare compared

theorem isNumber_of_beq (equal : (left == right) = true) :
    left.isNaN = false ∧ right.isNaN = false :=
  isNumber_of_compare (beq_iff_compare.mp equal)

theorem not_lt_iff_le (leftNumber : left.isNaN = false) (rightNumber : right.isNaN = false) :
    ¬left < right ↔ right ≤ left := by
  rw [lt_iff_rank_lt leftNumber rightNumber, le_iff_rank_le rightNumber leftNumber, Int.not_lt]

theorem not_le_iff_lt (leftNumber : left.isNaN = false) (rightNumber : right.isNaN = false) :
    ¬left ≤ right ↔ right < left := by
  rw [le_iff_rank_le leftNumber rightNumber, lt_iff_rank_lt rightNumber leftNumber, Int.not_le]

theorem number_le_refl (isNumber : number.isNaN = false) : number ≤ number :=
  (le_iff_rank_le isNumber isNumber).mpr (Int.le_refl _)

theorem number_le_of_lt (less : left < right) : left ≤ right := by
  obtain ⟨leftNumber, rightNumber⟩ := isNumber_of_lt less
  rw [le_iff_rank_le leftNumber rightNumber]
  exact Int.le_of_lt ((lt_iff_rank_lt leftNumber rightNumber).mp less)

theorem number_le_trans (first : left ≤ number) (second : number ≤ right) : left ≤ right := by
  obtain ⟨leftNumber, isNumber⟩ := isNumber_of_le first
  have rightNumber := (isNumber_of_le second).2
  rw [le_iff_rank_le leftNumber isNumber] at first
  rw [le_iff_rank_le isNumber rightNumber] at second
  exact (le_iff_rank_le leftNumber rightNumber).mpr (first.trans second)

theorem number_lt_of_lt_of_le (first : left < number) (second : number ≤ right) : left < right := by
  obtain ⟨leftNumber, isNumber⟩ := isNumber_of_lt first
  have rightNumber := (isNumber_of_le second).2
  rw [lt_iff_rank_lt leftNumber isNumber] at first
  rw [le_iff_rank_le isNumber rightNumber] at second
  exact (lt_iff_rank_lt leftNumber rightNumber).mpr (Int.lt_of_lt_of_le first second)

theorem number_lt_of_le_of_lt (first : left ≤ number) (second : number < right) : left < right := by
  obtain ⟨leftNumber, isNumber⟩ := isNumber_of_le first
  have rightNumber := (isNumber_of_lt second).2
  rw [le_iff_rank_le leftNumber isNumber] at first
  rw [lt_iff_rank_lt isNumber rightNumber] at second
  exact (lt_iff_rank_lt leftNumber rightNumber).mpr (Int.lt_of_le_of_lt first second)

/-- Two numbers of one rank, which is not that of zero, are the same. -/
theorem eq_of_rank_eq (equal : rank left = rank right) (nonzero : rank left ≠ 0) :
    left = right := by
  have same : isNegative left = isNegative right ∧ codeOf left = codeOf right := by
    unfold rank at equal nonzero
    cases leftSign : isNegative left <;> cases rightSign : isNegative right <;>
      simp only [leftSign, rightSign, if_true, Bool.false_eq_true, if_false] at equal nonzero <;>
      simp <;> omega
  rw [← ofCode_codeOf left, ← ofCode_codeOf right, same.1, same.2]

/-- Finite numbers rank between the two infinities. -/
theorem isFinite_iff_rank : number.isFinite = true ↔
    -(infinityCode : Int) < rank number ∧ rank number < infinityCode := by
  rw [isFinite_iff, rank]
  split <;> omega

/-- What lies between finite numbers is finite. -/
theorem isFinite_of_between (leftFinite : left.isFinite = true)
    (rightFinite : right.isFinite = true) (above : left ≤ number) (below : number ≤ right) :
    number.isFinite = true := by
  rw [isFinite_iff_rank] at *
  rw [le_iff_rank_le (isNumber_of_le above).1 (isNumber_of_le above).2] at above
  rw [le_iff_rank_le (isNumber_of_le below).1 (isNumber_of_le below).2] at below
  omega

/-- The code of a number that is not finite. -/
theorem codeOf_eq_infinityCode (isNumber : ¬number.isNaN = true)
    (infinite : ¬number.isFinite = true) : codeOf number = infinityCode := by
  obtain ⟨canonical, equal⟩ := canonical_unpack (Bool.eq_false_of_not_eq_true isNumber)
  have magnitude : rank number = codeOf number ∨ rank number = -codeOf number := by
    rw [rank]
    split <;> omega
  change ¬number.toModel.unpack.isFinite = true at infinite
  cases unpacked : number.toModel.unpack with
  | notANumber =>
    rw [unpacked] at canonical
    cases canonical
  | infinity sign =>
    rw [unpacked] at equal
    cases sign with
    | positive =>
      have equal : (infinityCode : Int) = rank number := equal
      omega
    | negative =>
      have equal : -(infinityCode : Int) = rank number := equal
      omega
  | zero sign =>
    rw [unpacked] at infinite
    exact absurd rfl infinite
  | finite sign mantissa exponent positive =>
    rw [unpacked] at infinite
    exact absurd rfl infinite

end Numbers

end Lamplight.Decimal
