import Lamplight.Decimal.Rounding

/-!
# Binary64 words as whole numbers

A binary64 word without its sign bit is its *code*.  Codes are in the order of the
values they stand for: first zero, then the subnormal numbers, the normal ones, and
infinity.  A code below infinity stands for `significand code * 2 ^ binaryExponent code`,
and `nearestCode` finds the code of the number closest to a quotient.  All of it is
exact arithmetic on whole numbers.
-/

namespace Lamplight.Decimal

/-- The bit of the sign of a word of 64 bits; signed whole numbers of 64 bits go up to it. -/
def signBit : Nat := 0x8000000000000000

/-- The bit above those of a significand that are written into a word. -/
def leadingBit : Nat := 0x10000000000000

/-- The code of infinity; the codes of finite numbers are those below it. -/
def infinityCode : Nat := 0x7FF0000000000000

/-- The code of a number: its bits without the sign. -/
def codeOf (number : Float) : Nat :=
  number.toBits.toNat % signBit

/-- Whether the sign bit of a number is set. -/
def isNegative (number : Float) : Bool :=
  signBit ≤ number.toBits.toNat

/-- The number with a given sign and code. -/
def ofCode (negative : Bool) (code : Nat) : Float :=
  Float.ofBits (UInt64.ofNat (if negative then signBit + code else code))

/-- The whole factor of the value of a finite code. -/
def significand (code : Nat) : Nat :=
  if code < leadingBit then code else leadingBit + code % leadingBit

/-- The power of two in the value of a finite code. -/
def binaryExponent (code : Nat) : Int :=
  if code < leadingBit then -1074 else (code / leadingBit : Nat) - 1075

/-- The value of a finite code as a quotient: `(numerator, denominator)`. -/
def ratio (code : Nat) : Nat × Nat :=
  (significand code * Nat.pow 2 (binaryExponent code).toNat,
    Nat.pow 2 (-binaryExponent code).toNat)

/-- The largest power of two that is at most `numerator / denominator`, as its
exponent; both are positive. -/
def binaryMagnitude (numerator denominator : Nat) : Int :=
  let guess : Int := (numerator.log2 : Int) - denominator.log2
  if numerator * Nat.pow 2 (-guess).toNat < denominator * Nat.pow 2 guess.toNat then guess - 1
  else guess

/-- The code of the number nearest to `numerator / denominator`.  Halves go to the
even significand and what lies past the largest finite number is infinite. -/
def nearestCode (numerator denominator : Nat) : Nat :=
  if numerator = 0 then 0
  else
    let power := max (binaryMagnitude numerator denominator - 52) (-1074)
    let rounded :=
      roundDiv (numerator * Nat.pow 2 (-power).toNat) (denominator * Nat.pow 2 power.toNat)
    min infinityCode ((power + 1074).toNat * leadingBit + rounded)

/-- The code nearest to `digits * 10 ^ exponent`.  Powers of ten far outside the range
of finite numbers are not computed. -/
def codeOfDecimal (digits : Nat) (exponent : Int) : Nat :=
  if digits = 0 then 0
  else if 310 < exponent then infinityCode
  else if exponent + (digits.log2 + 1) / 3 + 1 < -330 then 0
  else nearestCode (digits * Nat.pow 10 exponent.toNat) (Nat.pow 10 (-exponent).toNat)

end Lamplight.Decimal
