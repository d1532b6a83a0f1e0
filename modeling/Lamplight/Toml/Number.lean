import Lamplight.Decimal.Numeral
import Lamplight.Toml.Basic
import Lamplight.Toml.Text

/-!
# Numbers and moments of TOML

Whole numbers in four bases, other numbers, dates and times of day.  Digits may have single
underscores between them; a whole number has 64 bits.
-/

namespace Lamplight.Toml

open Text

/-- Exactly so many decimal digits. -/
def digits? (count : Nat) (text : List Char) : Option (Nat × List Char) :=
  let digits := text.take count
  if digits.length = count ∧ digits.all Char.isDigit then
    some (Decimal.digitsValue digits, text.drop count)
  else none

/-- Exactly so many decimal digits with a value within bounds. -/
def field? (count low high : Nat) (text : List Char) : Option (Nat × List Char) := do
  let (value, rest) ← digits? count text
  if low ≤ value ∧ value ≤ high then some (value, rest) else none

/-- A text behind one of the given characters. -/
def behind? (chars : List Char) : List Char → Option (List Char)
  | [] => none
  | char :: rest => if chars.contains char then some rest else none

/-- The number of days of a month. -/
def daysOfMonth (year month : Nat) : Nat :=
  if month = 2 then
    if year % 4 = 0 ∧ (year % 100 ≠ 0 ∨ year % 400 = 0) then 29 else 28
  else if month = 4 ∨ month = 6 ∨ month = 9 ∨ month = 11 then 30
  else 31

/-- A day of the calendar. -/
def date? (text : List Char) : Option (Date × List Char) := do
  let (year, rest) ← digits? 4 text
  let rest ← behind? ['-'] rest
  let (month, rest) ← field? 2 1 12 rest
  let rest ← behind? ['-'] rest
  let (day, rest) ← field? 2 1 31 rest
  if day ≤ daysOfMonth year month then some (⟨year, month, day⟩, rest) else none

/-- The billionths of a second behind a point; digits past the ninth do not count. -/
def nanoseconds (text : List Char) : Nat × List Char :=
  match text with
  | '.' :: rest =>
    let digits := Split.digits rest
    if digits.front.isEmpty then (0, text)
    else
      let kept := digits.front.take 9
      (Decimal.digitsValue kept * Nat.pow 10 (9 - kept.length), digits.rest)
  | _ => (0, text)

/-- A time of day; the last minute of a day may have a second more. -/
def clock? (text : List Char) : Option (Clock × List Char) := do
  let (hour, rest) ← field? 2 0 23 text
  let rest ← behind? [':'] rest
  let (minute, rest) ← field? 2 0 59 rest
  let rest ← behind? [':'] rest
  let (second, rest) ← field? 2 0 60 rest
  let (nanosecond, rest) := nanoseconds rest
  some (⟨hour, minute, second, nanosecond⟩, rest)

/-- An offset from universal time. -/
def offset? : List Char → Option (Offset × List Char)
  | [] => none
  | mark :: rest =>
    if mark = 'Z' ∨ mark = 'z' then some (.zulu, rest)
    else if mark = '+' ∨ mark = '-' then do
      let (hours, rest) ← field? 2 0 23 rest
      let rest ← behind? [':'] rest
      let (minutes, rest) ← field? 2 0 59 rest
      let distance : Int := hours * 60 + minutes
      some (.minutes (if mark = '-' then -distance else distance), rest)
    else none

/-- A date with a time of day and an offset, or with less, or a time of day alone. -/
def moment? : Piece? Moment := fun text =>
  match date? text with
  | some (date, afterDate) =>
    match (behind? ['T', 't', ' '] afterDate).bind clock? with
    | some (clock, afterClock) =>
      match offset? afterClock with
      | some (offset, rest) => Found.ofRest? ⟨some date, some clock, some offset⟩ rest
      | none => Found.ofRest? ⟨some date, some clock, none⟩ afterClock
    | none => Found.ofRest? ⟨some date, none, none⟩ afterDate
  | none => do
    let (clock, rest) ← clock? text
    Found.ofRest? ⟨none, some clock, none⟩ rest

/-- The longest run of digits with single underscores between them. -/
def digitRun (isDigit : Char → Bool) : (text : List Char) → Split text
  | '_' :: char :: rest =>
    if isDigit char then ((digitRun isDigit rest).push char).push '_'
    else Split.none ('_' :: char :: rest)
  | char :: rest =>
    if isDigit char then (digitRun isDigit rest).push char else Split.none (char :: rest)
  | [] => Split.none []

/-- Digits with single underscores between them, at least one. -/
def someDigits? (isDigit : Char → Bool) (text : List Char) : Option (Split text) :=
  if text.head?.any isDigit then some (digitRun isDigit text) else none

/-- A decimal whole number without its sign: no digit follows a zero in front. -/
def wholeDigits? : (text : List Char) → Option (Split text)
  | '0' :: rest => some ((Split.none rest).push '0')
  | text => someDigits? Char.isDigit text

/-- A whole number with a sign or without. -/
def decimal? (text : List Char) : Option (Split text) := do
  let sign := Split.sign text
  let whole ← wholeDigits? sign.rest
  some (sign.append whole)

/-- A text without its underscores. -/
def plainDigits (text : List Char) : List Char := text.filter (· ≠ '_')

/-- A point and digits. -/
def fraction? : (text : List Char) → Option (Split text)
  | '.' :: rest => (someDigits? Char.isDigit rest).map (·.push '.')
  | _ => none

/-- The mark of an exponent and digits, with a sign or not. -/
def exponent? : (text : List Char) → Option (Split text)
  | [] => none
  | mark :: rest =>
    if mark = 'e' ∨ mark = 'E' then do
      let sign := Split.sign rest
      let digits ← someDigits? Char.isDigit sign.rest
      some ((sign.append digits).push mark)
    else none

/-- The part of a number that makes it more than a whole one. -/
def tail? (text : List Char) : Option (Split text) :=
  match exponent? text with
  | some power => some power
  | none => do
    let fraction ← fraction? text
    match fraction.rest with
    | mark :: _ =>
      if mark = 'e' ∨ mark = 'E' then do
        let power ← exponent? fraction.rest
        some (fraction.append power)
      else some fraction
    | [] => some fraction

/-- `inf` and `nan`, with a sign or without. -/
def special? : Piece? Float := fun text =>
  let (negative, unsigned) := Decimal.takeSign text
  match unsigned with
  | 'i' :: 'n' :: 'f' :: rest =>
    Found.ofRest? (Decimal.ofCode negative Decimal.infinityCode) rest
  | 'n' :: 'a' :: 'n' :: rest => Found.ofRest? (0.0 / 0.0) rest
  | _ => none

/-- A number that is no whole one.  One past the largest finite number is refused, while one
below the smallest is infinite. -/
def float? : Piece? Float := fun text =>
  match decimal? text with
  | none => special? text
  | some whole =>
    match tail? whole.rest with
    | none => none
    | some tail => do
      let numeral ← Decimal.Numeral.read? (plainDigits (whole.append tail).front)
      let value := numeral.value
      if value.isInf && !numeral.negative then none else Found.ofRest? value tail.rest

/-- Whether a digit is one of a base up to sixteen. -/
def isDigitOf (base : Nat) (char : Char) : Bool :=
  (hexDigit? char).any (· < base)

/-- The value of digits of a base. -/
def digitsValueIn (base : Nat) (digits : List Char) : Nat :=
  digits.foldl (fun value digit => base * value + (hexDigit? digit).getD 0) 0

/-- A whole number behind the mark of its base. -/
def based? (base : Nat) (text : List Char) : Option (Int × List Char) := do
  let digits ← someDigits? (isDigitOf base) text
  let value := digitsValueIn base (plainDigits digits.front)
  if value < Decimal.signBit then some (value, digits.rest) else none

/-- A whole number of 64 bits. -/
def integer? : Piece? Int := fun text =>
  match text with
  | '0' :: 'x' :: rest => do
    let (value, rest) ← based? 16 rest
    Found.ofRest? value rest
  | '0' :: 'o' :: rest => do
    let (value, rest) ← based? 8 rest
    Found.ofRest? value rest
  | '0' :: 'b' :: rest => do
    let (value, rest) ← based? 2 rest
    Found.ofRest? value rest
  | text => do
    let split ← decimal? text
    let (negative, digits) := Decimal.takeSign (plainDigits split.front)
    let magnitude := Decimal.digitsValue digits
    if magnitude < Decimal.signBit then
      Found.ofRest? (if negative then -magnitude else magnitude) split.rest
    else if negative ∧ magnitude = Decimal.signBit then Found.ofRest? (-magnitude) split.rest
    else none

end Lamplight.Toml
