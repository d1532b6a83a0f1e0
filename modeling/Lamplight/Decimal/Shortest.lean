import Lamplight.Decimal.Word

/-!
# The shortest decimal that reads back

Among the decimals that `codeOfDecimal` reads as a given word, `shortest` takes one on
the coarsest grid of powers of ten, and there the one nearest to the word's value.
Whatever it returns was checked to read back, or is the value itself written out.
-/

namespace Lamplight.Decimal

/-- Which of two equally near decimals is taken. -/
inductive Tie
  /-- The one farther from zero. -/
  | away
  /-- The one whose last digit is even. -/
  | even
  deriving Repr, DecidableEq

/-- The decimal `digits * 10 ^ exponent`. -/
structure Magnitude where
  digits : Nat
  exponent : Int
  deriving Repr, DecidableEq

/-- Whether a decimal is read as the word of this code. -/
def Magnitude.readsAs (decimal : Magnitude) (code : Nat) : Bool :=
  codeOfDecimal decimal.digits decimal.exponent == code

/-- The value of a code written out in full. -/
def Magnitude.exact (code : Nat) : Magnitude :=
  if 0 ≤ binaryExponent code then
    ⟨significand code * Nat.pow 2 (binaryExponent code).toNat, 0⟩
  else
    ⟨significand code * Nat.pow 5 (-binaryExponent code).toNat, binaryExponent code⟩

/-- The decimals next to the value of a code on the grid `10 ^ power` are `low` and
`low + 1`; the value lies `remainder / spacing` of the way from the first to the
second. -/
structure Neighbours where
  low : Nat
  remainder : Nat
  spacing : Nat

/-- Where the value of a code lies on the grid `10 ^ power`. -/
def neighbours (code : Nat) (power : Int) : Neighbours :=
  let (numerator, denominator) := ratio code
  let scaled := numerator * Nat.pow 10 (-power).toNat
  let spacing := denominator * Nat.pow 10 power.toNat
  ⟨scaled / spacing, scaled % spacing, spacing⟩

/-- Whether the upper of two neighbours is taken when both read back. -/
def Neighbours.prefersUpper (tie : Tie) (place : Neighbours) : Bool :=
  place.spacing < 2 * place.remainder ||
    (2 * place.remainder == place.spacing &&
      match tie with
      | .away => true
      | .even => place.low % 2 == 1)

/-- The decimal on the grid `10 ^ power` that stands for a code, if the grid has one. -/
def onGrid? (tie : Tie) (code : Nat) (power : Int) : Option Magnitude :=
  let place := neighbours code power
  let lower : Magnitude := ⟨place.low, power⟩
  let upper : Magnitude := ⟨place.low + 1, power⟩
  match lower.readsAs code, upper.readsAs code with
  | true, true => some (if place.prefersUpper tie then upper else lower)
  | true, false => some lower
  | false, true => some upper
  | false, false => none

/-- The first grid worth a try: one that is coarser than the value of the code.  The
quotient of two logarithms is close to `1233 / 4096`. -/
def coarsestPower (code : Nat) : Int :=
  let (numerator, denominator) := ratio code
  binaryMagnitude numerator denominator * 1233 / 4096 + 1

/-- A decimal of the fewest digits that is read as the finite, positive code. -/
def shortest (tie : Tie) (code : Nat) : Magnitude :=
  ((List.range 20).findSome? fun (step : Nat) =>
    onGrid? tie code (coarsestPower code - step)).getD (Magnitude.exact code)

theorem readsAs_of_onGrid? {tie : Tie} {code : Nat} {power : Int} {decimal : Magnitude}
    (found : onGrid? tie code power = some decimal) : decimal.readsAs code = true := by
  simp only [onGrid?] at found
  split at found
  · next lower upper =>
    split at found <;> cases found <;> assumption
  · cases found; assumption
  · cases found; assumption
  · cases found

/-- The result reads back, or is the value written out. -/
theorem shortest_readsAs_or_exact (tie : Tie) (code : Nat) :
    (shortest tie code).readsAs code = true ∨ shortest tie code = Magnitude.exact code := by
  unfold shortest
  cases found : (List.range 20).findSome? fun (step : Nat) =>
      onGrid? tie code (coarsestPower code - step) with
  | none => exact .inr rfl
  | some decimal =>
    obtain ⟨step, _, hit⟩ := List.exists_of_findSome?_eq_some found
    exact .inl (readsAs_of_onGrid? hit)

end Lamplight.Decimal
