import Lamplight.Decimal.Shortest

/-!
# Numbers as text

A `NumberStyle` holds the decisions of one output format about how a number is spelled;
`NumberStyle.text` spells a number by it.  `fixed` writes a set count of decimal places
instead.
-/

namespace Lamplight.Decimal

/-- The decimal digits of a number. -/
def digitsText (number : Nat) : List Char :=
  Nat.toDigits 10 number

/-- An exponent with as few characters as there can be. -/
def shortExponent (power : Int) : List Char :=
  (if power < 0 then ['-'] else []) ++ digitsText power.natAbs

/-- An exponent that always has a sign. -/
def signedExponent (power : Int) : List Char :=
  (if power < 0 then '-' else '+') :: digitsText power.natAbs

/-- How one output format spells numbers. -/
structure NumberStyle where
  /-- Which of two equally near shortest decimals is written. -/
  tie : Tie
  /-- Whether a whole number written without exponent ends in `.0`. -/
  markWhole : Bool
  /-- The powers of ten of a leading digit for which no exponent is written. -/
  positional : Int → Bool
  /-- How an exponent is spelled. -/
  exponent : Int → List Char := shortExponent
  /-- What stands for no number. -/
  notANumber : String
  /-- What stands for infinity; a minus goes before it. -/
  infinity : String

/-- Digits without the zeros at their end, and how many zeros those were. -/
def dropTrailingZeros (digits : List Char) : List Char × Nat :=
  let zeros := digits.reverse.takeWhile (· == '0')
  ((digits.reverse.dropWhile (· == '0')).reverse, zeros.length)

/-- Digits with a decimal point after the first `point` of them.  Zeros fill the gap
where the point lies before or behind all digits. -/
def placePoint (markWhole : Bool) (digits : List Char) (point : Int) : List Char :=
  if point ≤ 0 then
    '0' :: '.' :: (List.replicate (-point).toNat '0' ++ digits)
  else if (digits.length : Int) ≤ point then
    digits ++ List.replicate (point.toNat - digits.length) '0' ++
      (if markWhole then ['.', '0'] else [])
  else
    digits.take point.toNat ++ '.' :: digits.drop point.toNat

/-- Digits with a point after the first, and an exponent behind them. -/
def withExponent (digits exponent : List Char) : List Char :=
  (match digits with
    | [] => []
    | [digit] => [digit]
    | digit :: more => digit :: '.' :: more) ++
    'e' :: exponent

/-- The text of a finite code. -/
def NumberStyle.magnitude (style : NumberStyle) (code : Nat) : List Char :=
  if code = 0 then
    if style.markWhole then ['0', '.', '0'] else ['0']
  else
    let decimal := shortest style.tie code
    let (digits, zeros) := dropTrailingZeros (digitsText decimal.digits)
    let point : Int := digits.length + zeros + decimal.exponent
    if style.positional (point - 1) then placePoint style.markWhole digits point
    else withExponent digits (style.exponent (point - 1))

/-- The text of a number in a style, as characters. -/
def NumberStyle.chars (style : NumberStyle) (number : Float) : List Char :=
  if number.isNaN then style.notANumber.toList
  else
    (if isNegative number then ['-'] else []) ++
      (if codeOf number = infinityCode then style.infinity.toList
       else style.magnitude (codeOf number))

/-- The text of a number in a style. -/
def NumberStyle.text (style : NumberStyle) (number : Float) : String :=
  String.ofList (style.chars number)

/-- Messages and displays: never an exponent, and nothing after a whole number. -/
def plain : NumberStyle where
  tie := .away
  markWhole := false
  positional := fun _ => true
  notANumber := "NaN"
  infinity := "inf"

/-- A number with a set count of decimal places; a half goes to the even neighbour. -/
def fixed (places : Nat) (number : Float) : String :=
  if number.isNaN then plain.notANumber
  else
    let sign := if isNegative number then "-" else ""
    if codeOf number = infinityCode then sign ++ plain.infinity
    else
      let (numerator, denominator) := ratio (codeOf number)
      let scaled := roundDiv (numerator * Nat.pow 10 places) denominator
      let digits := digitsText scaled
      let padded := List.replicate (places + 1 - digits.length) '0' ++ digits
      let split := padded.length - places
      sign ++ String.ofList
        (padded.take split ++ (if places = 0 then [] else '.' :: padded.drop split))

end Lamplight.Decimal
