import Lamplight.Decimal.Word

/-!
# Reading decimal numerals

A numeral is a sign, digits with or without a decimal point, and an optional power of
ten.  `Numeral.read?` takes the text apart and `Numeral.value` is the number nearest to
what it denotes.  `readNumber?` also knows the names of infinity and of no number.
-/

namespace Lamplight.Decimal

/-- The decimal `±digits * 10 ^ exponent`. -/
structure Numeral where
  negative : Bool
  digits : Nat
  exponent : Int
  deriving Repr, DecidableEq

/-- The value of a run of decimal digits. -/
def digitsValue (digits : List Char) : Nat :=
  digits.foldl (fun value digit => 10 * value + (digit.toNat - '0'.toNat)) 0

/-- A sign at the start of a text: whether it is a minus, and what follows.  A text
without a sign counts as positive. -/
def takeSign : List Char → Bool × List Char
  | '-' :: rest => (true, rest)
  | '+' :: rest => (false, rest)
  | text => (false, text)

/-- The power of ten at the end of a numeral; nothing at all means the power zero. -/
def readExponent? : List Char → Option Int
  | [] => some 0
  | mark :: rest =>
    let (negative, digits) := takeSign rest
    if (mark == 'e' || mark == 'E') && !digits.isEmpty && digits.all Char.isDigit then
      some (if negative then -(digitsValue digits : Int) else digitsValue digits)
    else none

/-- The numeral that a text spells.  There is at least one digit on one side of the
decimal point. -/
def Numeral.read? (text : List Char) : Option Numeral :=
  let (negative, unsigned) := takeSign text
  let whole := unsigned.takeWhile Char.isDigit
  let afterWhole := unsigned.dropWhile Char.isDigit
  let (fraction, tail) :=
    match afterWhole with
    | '.' :: rest => (rest.takeWhile Char.isDigit, rest.dropWhile Char.isDigit)
    | rest => ([], rest)
  if whole.isEmpty && fraction.isEmpty then none
  else
    (readExponent? tail).map fun power =>
      ⟨negative, digitsValue (whole ++ fraction), power - fraction.length⟩

/-- The number nearest to a numeral; it is infinite past the largest finite number. -/
def Numeral.value (numeral : Numeral) : Float :=
  ofCode numeral.negative (codeOfDecimal numeral.digits numeral.exponent)

/-- The number a text spells: a numeral, or one of the words `inf`, `infinity` and `nan`
in any case, the first two with an optional sign. -/
def readNumber? (text : List Char) : Option Float :=
  let (negative, unsigned) := takeSign text
  let word := unsigned.map Char.toLower
  if word = "inf".toList || word = "infinity".toList then
    some (ofCode negative infinityCode)
  else if word = "nan".toList then
    some (0.0 / 0.0)
  else
    (Numeral.read? text).map Numeral.value

end Lamplight.Decimal
