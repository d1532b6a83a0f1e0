import Mathlib.Algebra.Group.Nat.Defs
import Lamplight.Decimal.Word

/-!
# Numbers and their bits

A number that is none is stored in one way only, so that the sign and the code of a number determine
it: `ofCode` undoes `isNegative` and `codeOf`.  The codes of finite numbers are those below the code
of infinity.
-/

namespace Lamplight.Decimal

open Float.Model Float.Model.UnpackedFloat

section Fields

variable (bits : BitVec 64)

theorem toNat_unpackExponent :
    (@unpackExponent .binary64 bits).toNat = bits.toNat / 2 ^ 52 % 2 ^ 11 := by
  simp [unpackExponent, BitVec.extractLsb, BitVec.extractLsb'_toNat, Nat.shiftRight_eq_div_pow]

theorem toBitVec_ofBitVec (sign : BitVec 1) : (Sign.ofBitVec sign).toBitVec = sign := by
  rw [Sign.ofBitVec]
  split
  · next positive => exact positive.symm
  · next negative =>
    apply BitVec.eq_of_toNat_eq
    have bound := sign.isLt
    have nonzero : sign.toNat ≠ 0 := by
      intro zero
      exact negative (BitVec.eq_of_toNat_eq zero)
    show 1 = sign.toNat
    omega

/-- Words are put together from their fields. -/
theorem packComponents_unpack :
    packComponents .binary64 (Sign.ofBitVec (@unpackSign .binary64 bits))
      (@unpackExponent .binary64 bits) (@unpackMantissa .binary64 bits) = bits := by
  rw [packComponents, toBitVec_ofBitVec]
  have upper : bits.extractLsb' 63 1 ++ bits.extractLsb' 52 11 = bits.extractLsb' 52 12 :=
    BitVec.extractLsb'_append_extractLsb'_eq_extractLsb' (by rfl)
  have whole : bits.extractLsb' 52 12 ++ bits.extractLsb' 0 52 = bits.extractLsb' 0 64 :=
    BitVec.extractLsb'_append_extractLsb'_eq_extractLsb' (by rfl)
  calc bits.extractLsb' 63 1 ++ bits.extractLsb' 52 11 ++ bits.extractLsb' 0 52
      = bits.extractLsb' 52 12 ++ bits.extractLsb' 0 52 := by rw [upper]
    _ = bits.extractLsb' 0 64 := whole
    _ = bits := BitVec.extractLsb'_eq_self

end Fields

theorem toNat_one_append (mantissa : BitVec 52) :
    (1#1 ++ mantissa).toNat = 2 ^ 52 + mantissa.toNat := by
  rw [BitVec.toNat_append, ← Nat.shiftLeft_add_eq_or_of_lt mantissa.isLt]
  rfl

/-- How a number below the normal ones is packed. -/
theorem pack_subnormal (sign : Sign) {mantissa : Nat} (positive : 0 < mantissa)
    (small : mantissa < 2 ^ 52) :
    UnpackedFloat.pack .binary64 (.finite sign mantissa (-1074) positive) =
      packComponents .binary64 sign 0#11 (BitVec.ofNat 52 mantissa) := by
  have length : mantissa.log2 + 1 ≠ 53 := by
    have bound := (Nat.log2_lt (Nat.ne_of_gt positive)).mpr small
    omega
  exact if_neg length

/-- How a normal number is packed: the leading bit of the mantissa goes away. -/
theorem pack_normal (sign : Sign) {mantissa : Nat} (positive : 0 < mantissa)
    (large : 2 ^ 52 ≤ mantissa) (small : mantissa < 2 ^ 53) {place : Nat} (bound : place < 2047) :
    UnpackedFloat.pack .binary64 (.finite sign mantissa (place - 1075) positive) =
      packComponents .binary64 sign (BitVec.ofNat 11 place) (BitVec.ofNat 52 mantissa) := by
  have length : mantissa.log2 + 1 = 53 := by
    have above := (Nat.log2_lt (Nat.ne_of_gt positive)).mpr small
    have below := (Nat.le_log2 (Nat.ne_of_gt positive)).mpr large
    omega
  have biased : ((place : Int) - 1075 + (1023 : Nat) + (52 : Nat)).toNat = place := by omega
  have finite : ¬2 ^ 11 ≤ ((place : Int) - 1075 + (1023 : Nat) + (52 : Nat)).toNat + 1 := by omega
  calc UnpackedFloat.pack .binary64 (.finite sign mantissa (place - 1075) positive)
      = packComponents .binary64 sign
          (BitVec.ofNat 11 ((place : Int) - 1075 + (1023 : Nat) + (52 : Nat)).toNat)
          (BitVec.ofNat 52 mantissa) := (if_neg finite).trans (if_pos length)
    _ = packComponents .binary64 sign (BitVec.ofNat 11 place) (BitVec.ofNat 52 mantissa) := by
      rw [biased]

/-- The exponent of a word is below the highest one, unless all its bits are set. -/
theorem unpackExponent_lt {bits : BitVec 64} (other : @unpackExponent .binary64 bits ≠ -1) :
    (@unpackExponent .binary64 bits).toNat < 2047 := by
  apply Nat.lt_of_le_of_ne (Nat.le_of_lt_succ (@unpackExponent .binary64 bits).isLt)
  intro equal
  exact other (BitVec.eq_of_toNat_eq equal)

/-- What the fields of a word stand for. -/
inductive Unpacks (bits : BitVec 64) : UnpackedFloat → Prop
  | infinity (highest : @unpackExponent .binary64 bits = -1#11)
      (zero : @unpackMantissa .binary64 bits = 0#52) :
      Unpacks bits (.infinity (Sign.ofBitVec (@unpackSign .binary64 bits)))
  | notANumber (highest : @unpackExponent .binary64 bits = -1#11)
      (nonzero : @unpackMantissa .binary64 bits ≠ 0#52) : Unpacks bits .notANumber
  | zero (lowest : @unpackExponent .binary64 bits = 0#11)
      (zero : @unpackMantissa .binary64 bits = 0#52) :
      Unpacks bits (.zero (Sign.ofBitVec (@unpackSign .binary64 bits)))
  | subnormal (lowest : @unpackExponent .binary64 bits = 0#11)
      (positive : 0 < (@unpackMantissa .binary64 bits).toNat) :
      Unpacks bits (.finite (Sign.ofBitVec (@unpackSign .binary64 bits))
        (@unpackMantissa .binary64 bits).toNat (-1074) positive)
  | normal (bound : (@unpackExponent .binary64 bits).toNat < 2047)
      (above : (@unpackExponent .binary64 bits).toNat ≠ 0)
      (positive : 0 < (1#1 ++ @unpackMantissa .binary64 bits).toNat) :
      Unpacks bits (.finite (Sign.ofBitVec (@unpackSign .binary64 bits))
        (1#1 ++ @unpackMantissa .binary64 bits).toNat
        ((@unpackExponent .binary64 bits).toNat - 1075) positive)

/-- Words are unpacked to what their fields stand for. -/
theorem unpacks_unpack (bits : BitVec 64) :
    Unpacks bits (UnpackedFloat.unpack .binary64 bits) := by
  by_cases highest : @unpackExponent .binary64 bits = -1#11
  · by_cases zero : @unpackMantissa .binary64 bits = 0#52
    · have unpacked : UnpackedFloat.unpack .binary64 bits = .infinity _ :=
        (if_pos highest).trans (if_pos zero)
      exact unpacked ▸ .infinity highest zero
    · have unpacked : UnpackedFloat.unpack .binary64 bits = .notANumber :=
        (if_pos highest).trans (if_neg zero)
      exact unpacked ▸ .notANumber highest zero
  · by_cases lowest : @unpackExponent .binary64 bits = 0#11
    · by_cases zero : @unpackMantissa .binary64 bits = 0#52
      · have unpacked : UnpackedFloat.unpack .binary64 bits = .zero _ :=
          (if_neg highest).trans ((if_pos lowest).trans (dif_pos zero))
        exact unpacked ▸ .zero lowest zero
      · have positive : 0 < (@unpackMantissa .binary64 bits).toNat :=
          Nat.pos_of_ne_zero fun empty => zero (BitVec.eq_of_toNat_eq empty)
        have unpacked : UnpackedFloat.unpack .binary64 bits = .finite _ _
            ((@unpackExponent .binary64 bits).toNat - 1075 + 1) positive :=
          (if_neg highest).trans ((if_pos lowest).trans (dif_neg zero))
        rw [lowest] at unpacked
        exact unpacked ▸ .subnormal lowest positive
    · have above : (@unpackExponent .binary64 bits).toNat ≠ 0 := fun zero =>
        lowest (BitVec.eq_of_toNat_eq zero)
      have positive : 0 < (1#1 ++ @unpackMantissa .binary64 bits).toNat := by
        rw [toNat_one_append]
        omega
      have unpacked : UnpackedFloat.unpack .binary64 bits = .finite _ _ _ positive :=
        (if_neg highest).trans (if_neg lowest)
      exact unpacked ▸ .normal (unpackExponent_lt highest) above positive

/-- Unpacking a valid word and packing the result gives the word back. -/
theorem pack_unpack {bits : BitVec 64} (valid : Format.binary64.Valid bits) :
    UnpackedFloat.pack .binary64 (UnpackedFloat.unpack .binary64 bits) = bits := by
  have whole := packComponents_unpack bits
  have mantissaBound : (@unpackMantissa .binary64 bits).toNat < 2 ^ 52 := BitVec.isLt _
  have unpacked := unpacks_unpack bits
  generalize UnpackedFloat.unpack .binary64 bits = result at unpacked ⊢
  cases unpacked with
  | infinity highest zero =>
    rw [highest, zero] at whole
    exact whole
  | notANumber highest nonzero => exact (valid.eq_packedNaN highest nonzero).symm
  | zero lowest zero =>
    rw [lowest, zero] at whole
    exact whole
  | subnormal lowest positive =>
    rw [lowest] at whole
    rw [pack_subnormal _ _ mantissaBound, BitVec.ofNat_toNat, BitVec.setWidth_eq]
    exact whole
  | normal bound above positive =>
    have leading := toNat_one_append (@unpackMantissa .binary64 bits)
    have large : 2 ^ 52 ≤ (1#1 ++ @unpackMantissa .binary64 bits).toNat := by omega
    have small : (1#1 ++ @unpackMantissa .binary64 bits).toNat < 2 ^ 53 := by omega
    rw [pack_normal _ _ large small bound]
    have exponent : BitVec.ofNat 11 (@unpackExponent .binary64 bits).toNat =
        @unpackExponent .binary64 bits := by
      rw [BitVec.ofNat_toNat, BitVec.setWidth_eq]
    have mantissa : BitVec.ofNat 52 (1#1 ++ @unpackMantissa .binary64 bits).toNat =
        @unpackMantissa .binary64 bits := by
      apply BitVec.eq_of_toNat_eq
      rw [BitVec.toNat_ofNat, leading, Nat.add_mod_left, Nat.mod_eq_of_lt mantissaBound]
    rw [exponent, mantissa]
    exact whole

/-- An unpacked word is finite unless all bits of its exponent are set. -/
theorem isFinite_unpack_iff (bits : BitVec 64) :
    (UnpackedFloat.unpack .binary64 bits).isFinite = true ↔
      (@unpackExponent .binary64 bits).toNat < 2047 := by
  have unpacked := unpacks_unpack bits
  generalize UnpackedFloat.unpack .binary64 bits = result at unpacked ⊢
  cases unpacked with
  | infinity highest zero =>
    rw [highest]
    exact iff_of_false nofun (by decide)
  | notANumber highest nonzero =>
    rw [highest]
    exact iff_of_false nofun (by decide)
  | zero lowest zero =>
    rw [lowest]
    exact iff_of_true rfl (by decide)
  | subnormal lowest positive =>
    rw [lowest]
    exact iff_of_true rfl (by decide)
  | normal bound above positive => exact iff_of_true rfl bound

/-! ## The sign and the code of a number -/

section Codes

variable (number : Float)

theorem ofModel_congr {left right : Float.Model} (same : left.toBits = right.toBits) :
    Float.ofModel left = Float.ofModel right := by
  cases left
  cases right
  cases same
  rfl

/-- A number is the one with its bits. -/
theorem ofBits_toBits : Float.ofBits number.toBits = number := by
  have same : (Float.Model.pack number.toModel.unpack).toBits = number.toModel.toBits :=
    congrArg UInt64.ofBitVec (pack_unpack number.toModel.valid)
  exact ofModel_congr same

theorem ofCode_codeOf : ofCode (isNegative number) (codeOf number) = number := by
  have bound := number.toBits.toNat_lt
  have bits : (if isNegative number then signBit + codeOf number else codeOf number) =
      number.toBits.toNat := by
    by_cases negative : signBit ≤ number.toBits.toNat
    · have sign : isNegative number = true := decide_eq_true negative
      rw [if_pos sign, codeOf]
      rw [signBit] at negative ⊢
      omega
    · have sign : isNegative number = false := decide_eq_false negative
      rw [sign, if_neg Bool.false_ne_true, codeOf]
      rw [signBit] at negative ⊢
      omega
  rw [ofCode, bits, UInt64.ofNat_toNat, ofBits_toBits]

/-- Finite numbers are those with a code below the code of infinity. -/
theorem isFinite_iff : number.isFinite = true ↔ codeOf number < infinityCode := by
  have unpacked := isFinite_unpack_iff number.toBits.toBitVec
  rw [toNat_unpackExponent] at unpacked
  rw [codeOf, signBit, infinityCode]
  refine unpacked.trans ?_
  show number.toBits.toNat / 2 ^ 52 % 2 ^ 11 < 2047 ↔ _
  omega

/-- A finite number is a number. -/
theorem isNaN_eq_false {number : Float} (finite : number.isFinite = true) :
    number.isNaN = false := by
  change number.toModel.unpack.isFinite = true at finite
  change number.toModel.unpack.isNaN = false
  cases unpacked : number.toModel.unpack with
  | notANumber =>
    rw [unpacked] at finite
    cases finite
  | infinity sign => rfl
  | zero sign => rfl
  | finite sign mantissa exponent positive => rfl

end Codes

end Lamplight.Decimal
