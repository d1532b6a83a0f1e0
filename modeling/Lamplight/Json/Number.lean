import Lamplight.Decimal.Numeral
import Lamplight.Json.Basic
import Lamplight.Json.Source

/-!
# The value of a JSON number

A whole number that fits 64 bits keeps its value.  Any other number is computed from as many
leading digits as fit 64 bits and a power of ten, by one multiplication or division of
floating-point numbers; the result can differ from the nearest number in its last digit.
-/

namespace Lamplight.Json

open Text

/-- The digits read so far of a number: those that fit 64 bits, and the power of ten of the
last of them. -/
structure Gathered where
  digits : Nat
  power : Int
  deriving Repr, DecidableEq

namespace Gathered

/-- Whether one more digit fits 64 bits. -/
def fits (gathered : Gathered) (digit : Nat) : Bool :=
  gathered.digits * 10 + digit < UInt64.size

/-- Take digits before the point.  From the first one on that does not fit, each raises the
power of ten. -/
def whole (gathered : Gathered) : List Char → Gathered
  | [] => gathered
  | char :: rest =>
    let digit := char.toNat - '0'.toNat
    if gathered.fits digit then
      whole ⟨gathered.digits * 10 + digit, gathered.power⟩ rest
    else ⟨gathered.digits, gathered.power + (rest.length + 1)⟩

/-- Take digits after the point.  From the first one on that does not fit, none counts. -/
def fraction (gathered : Gathered) : List Char → Gathered
  | [] => gathered
  | char :: rest =>
    let digit := char.toNat - '0'.toNat
    if gathered.fits digit then
      fraction ⟨gathered.digits * 10 + digit, gathered.power - 1⟩ rest
    else gathered

end Gathered

/-- The number `10 ^ power`, for powers up to 308. -/
def powerOfTen (power : Nat) : Float :=
  (Decimal.Numeral.mk false 1 power).value

/-- A number times `10 ^ power`.  Very small powers are divided by in steps; nothing is the
result when it would be infinite. -/
def scale (number : Float) (power : Int) : Option Float :=
  if power.natAbs ≤ 308 then
    if 0 ≤ power then
      let product := number * powerOfTen power.natAbs
      if product.isInf then none else some product
    else some (number / powerOfTen power.natAbs)
  else if number == 0 then some number
  else if 0 ≤ power then none
  else scale (number / powerOfTen 308) (power + 308)
termination_by power.natAbs
decreasing_by omega

/-- The largest power of ten that is computed with; larger ones stand for no finite number
and smaller ones for zero. -/
def powerLimit : Nat := 0x7FFFFFFF

/-- A spelling taken apart: the digits before and after the point, and the power of ten with
its sign, if there is one. -/
structure Spelling where
  negative : Bool
  whole : List Char
  fraction : List Char
  power : Option (Bool × List Char)

/-- Take the spelling of a number apart. -/
def Spelling.ofChars (chars : List Char) : Spelling :=
  let (negative, unsigned) := Decimal.takeSign chars
  let whole := Split.digits unsigned
  let fraction := Split.fraction whole.rest
  let power :=
    match fraction.rest with
    | [] => none
    | _ :: power => some (Decimal.takeSign power)
  ⟨negative, whole.front, fraction.front.drop 1, power⟩

/-- The number that a spelling with a point, an exponent or too many digits stands for. -/
def Spelling.number? (spelling : Spelling) : Option Float :=
  let gathered := ((Gathered.mk 0 0).whole spelling.whole).fraction spelling.fraction
  let magnitude :=
    match spelling.power with
    | none => scale gathered.digits.toUInt64.toFloat gathered.power
    | some (negative, digits) =>
      let power := Decimal.digitsValue digits
      if power ≤ powerLimit then
        scale gathered.digits.toUInt64.toFloat
          (if negative then gathered.power - power else gathered.power + power)
      else if gathered.digits ≠ 0 && !negative then none
      else some 0
  magnitude.map fun number => if spelling.negative then -number else number

/-- The value of a spelled number, if it is finite.  A negative zero is no whole number. -/
def numberOf? (chars : List Char) : Option Json :=
  let spelling := Spelling.ofChars chars
  let value := Decimal.digitsValue spelling.whole
  if spelling.fraction.isEmpty && spelling.power.isNone && value < UInt64.size then
    if !spelling.negative then some (.integer value)
    else if 0 < value && value ≤ Decimal.signBit then some (.integer (-value))
    else some (.number (-value.toUInt64.toFloat))
  else spelling.number?.map .number

end Lamplight.Json
