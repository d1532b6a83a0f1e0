import Lamplight.Decimal.Numeral

/-!
# Reading whole numbers

A whole number is written as digits with or without a plus sign.
-/

namespace Lamplight.Decimal

/-- The value of digits, of which there must be one at least. -/
def readDigits? (text : List Char) : Option Nat :=
  if !text.isEmpty && text.all Char.isDigit then some (digitsValue text) else none

/-- The whole number that a text spells; it is not negative. -/
def readUnsigned? : List Char → Option Nat
  | '+' :: rest => readDigits? rest
  | text => readDigits? text

/-- The word of 32 bits that a text spells. -/
def readWord32? (text : String) : Option UInt32 :=
  match readUnsigned? text.toList with
  | some value => if value < UInt32.size then some (UInt32.ofNat value) else none
  | none => none

/-- The word of 64 bits that a text spells. -/
def readWord64? (text : String) : Option UInt64 :=
  match readUnsigned? text.toList with
  | some value => if value < UInt64.size then some (UInt64.ofNat value) else none
  | none => none

end Lamplight.Decimal
