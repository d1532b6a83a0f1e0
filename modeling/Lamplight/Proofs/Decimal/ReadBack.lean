import Mathlib.Data.List.TakeWhile
import Lamplight.Decimal.Layout
import Lamplight.Decimal.Numeral
import Lamplight.Proofs.Decimal.Bits
import Lamplight.Proofs.Decimal.Nearest
import Lamplight.Proofs.Text.Splitting

/-!
# Reading the text of a number

The plain text of a finite number is a sign, digits, and digits after a point if there is one, and
reading it gives the number back, bit by bit.  The text is handled in the form `positional`, with
the digits before and after the point as its parts.
-/

namespace Lamplight.Decimal

open Text

/-! ## The value of digits -/

theorem digitsValue_eq (digits : List Char) : digitsValue digits = Nat.ofDigitChars 10 digits 0 :=
  rfl

theorem digitsValue_append (front back : List Char) :
    digitsValue (front ++ back) = 10 ^ back.length * digitsValue front + digitsValue back := by
  rw [digitsValue_eq, Nat.ofDigitChars_append, Nat.ofDigitChars_eq_ofDigitChars_zero]
  rfl

@[simp] theorem digitsValue_replicate_zero (count : Nat) :
    digitsValue (List.replicate count '0') = 0 := by
  rw [digitsValue_eq, Nat.ofDigitChars_replicate_zero, Nat.mul_zero]

theorem digitsValue_zeros_append (count : Nat) (digits : List Char) :
    digitsValue (List.replicate count '0' ++ digits) = digitsValue digits := by
  rw [digitsValue_append, digitsValue_replicate_zero, Nat.mul_zero, Nat.zero_add]

theorem digitsValue_append_zeros (digits : List Char) (count : Nat) :
    digitsValue (digits ++ List.replicate count '0') = digitsValue digits * 10 ^ count := by
  rw [digitsValue_append, digitsValue_replicate_zero, List.length_replicate, Nat.add_zero,
    Nat.mul_comm]

/-- The digits of a number have it as their value. -/
@[simp] theorem digitsValue_digitsText (number : Nat) : digitsValue (digitsText number) = number :=
  Nat.ofDigitChars_ten_toDigits

/-- Whether a text is made of decimal digits. -/
abbrev AllDigits (text : List Char) : Prop := ∀ char ∈ text, char.isDigit = true

theorem allDigits_digitsText (number : Nat) : AllDigits (digitsText number) :=
  fun _ member => Nat.isDigit_of_mem_toDigits (by decide) (by decide) member

theorem allDigits_zeros (count : Nat) : AllDigits (List.replicate count '0') := by
  intro char member
  rw [List.eq_of_mem_replicate member]
  decide

theorem AllDigits.append {front back : List Char} (frontDigits : AllDigits front)
    (backDigits : AllDigits back) : AllDigits (front ++ back) := by
  intro char member
  rcases List.mem_append.mp member with inFront | inBack
  · exact frontDigits char inFront
  · exact backDigits char inBack

/-- The zeros that are dropped from the end of digits. -/
theorem dropTrailingZeros_append (digits : List Char) :
    (dropTrailingZeros digits).1 ++ List.replicate (dropTrailingZeros digits).2 '0' = digits := by
  have zeros : digits.reverse.takeWhile (· == '0') =
      List.replicate (digits.reverse.takeWhile (· == '0')).length '0' := by
    rw [List.eq_replicate_iff]
    refine ⟨rfl, ?_⟩
    intro char member
    exact beq_iff_eq.mp (List.mem_takeWhile_imp (p := (· == '0')) member)
  have reversed := congrArg List.reverse
    (List.takeWhile_append_dropWhile (p := (· == '0')) (l := digits.reverse))
  rw [List.reverse_append, List.reverse_reverse, zeros, List.reverse_replicate] at reversed
  exact reversed

/-- The digits of a number without the zeros at their end. -/
theorem dropTrailingZeros_digitsText (number : Nat) :
    ∃ digits zeros, dropTrailingZeros (digitsText number) = (digits, zeros) ∧
      AllDigits digits ∧ digitsValue digits * 10 ^ zeros = number := by
  have parts := dropTrailingZeros_append (digitsText number)
  refine ⟨(dropTrailingZeros (digitsText number)).1, (dropTrailingZeros (digitsText number)).2, rfl,
    ?_, ?_⟩
  · intro char member
    apply allDigits_digitsText number
    rw [← parts]
    exact List.mem_append_left _ member
  · rw [← digitsValue_append_zeros, parts, digitsValue_digitsText]

/-! ## Digits around a point -/

/-- Digits, and a point with further digits after it if there are any. -/
def positional (whole fraction : List Char) : List Char :=
  whole ++ pointed fraction

/-- Digits with a point at some place, as the digits before and after it.  The value of the digits
does not change, and the number of digits after the point tells their power of ten. -/
theorem placePoint_eq_positional {digits : List Char} (nonempty : digits ≠ [])
    (areDigits : AllDigits digits) (point : Int) :
    ∃ whole fraction, placePoint false digits point = positional whole fraction ∧
      whole ≠ [] ∧ AllDigits whole ∧ AllDigits fraction ∧
      (digitsValue (whole ++ fraction) : ℚ) * 10 ^ (-(fraction.length : Int)) =
        digitsValue digits * 10 ^ (point - digits.length) := by
  rw [placePoint]
  split
  · next before =>
    -- The point stands before all digits, behind a zero of its own.
    refine ⟨['0'], List.replicate (-point).toNat '0' ++ digits, ?_, by simp, allDigits_zeros 1,
      (allDigits_zeros _).append areDigits, ?_⟩
    · rw [positional, pointed, if_neg (by simp [nonempty])]
      rfl
    · have value : digitsValue (['0'] ++ (List.replicate (-point).toNat '0' ++ digits)) =
          digitsValue digits := by
        exact (digitsValue_zeros_append 1 _).trans (digitsValue_zeros_append _ _)
      have power : -((List.replicate (-point).toNat '0' ++ digits).length : Int) =
          point - digits.length := by
        rw [List.length_append, List.length_replicate]
        omega
      rw [value, power]
  · split
    · next behind =>
      refine ⟨digits ++ List.replicate (point.toNat - digits.length) '0', [], ?_,
        by simp [nonempty], areDigits.append (allDigits_zeros _), List.forall_mem_nil _, ?_⟩
      · rw [positional, pointed, if_pos rfl, if_neg Bool.false_ne_true]
      · have power : point - digits.length = ((point.toNat - digits.length : Nat) : Int) := by omega
        rw [List.append_nil, digitsValue_append_zeros, power, zpow_natCast]
        simp
    · next inside outside =>
      refine ⟨digits.take point.toNat, digits.drop point.toNat, ?_, ?_, ?_, ?_, ?_⟩
      · rw [positional, pointed, if_neg]
        rw [List.drop_eq_nil_iff]
        omega
      · intro none
        rw [List.take_eq_nil_iff] at none
        rcases none with none | none
        · omega
        · exact nonempty none
      · exact fun char member => areDigits char (List.mem_of_mem_take member)
      · exact fun char member => areDigits char (List.mem_of_mem_drop member)
      · have power : -((digits.drop point.toNat).length : Int) = point - digits.length := by
          rw [List.length_drop]
          omega
        rw [List.take_append_drop, power]

/-- The plain text of a finite code: its digits are read as the code. -/
theorem magnitude_eq_positional {code : Nat} (finite : code < infinityCode) :
    ∃ whole fraction, plain.magnitude code = positional whole fraction ∧
      whole ≠ [] ∧ AllDigits whole ∧ AllDigits fraction ∧
      codeOfDecimal (digitsValue (whole ++ fraction)) (-(fraction.length : Int)) = code := by
  rcases Nat.eq_zero_or_pos code with rfl | positive
  · exact ⟨['0'], [], rfl, List.cons_ne_nil _ _, allDigits_zeros 1, List.forall_mem_nil _, rfl⟩
  · have reads := codeOfDecimal_shortest plain.tie finite
    obtain ⟨digits, zeros, trimmed, areDigits, value⟩ :=
      dropTrailingZeros_digitsText (shortest plain.tie code).digits
    have nonempty : digits ≠ [] := by
      rintro rfl
      have empty : 0 * 10 ^ zeros = (shortest plain.tie code).digits := value
      rw [← empty, Nat.zero_mul] at reads
      exact Nat.ne_of_gt positive reads.symm
    obtain ⟨whole, fraction, text, wholeNonempty, wholeDigits, fractionDigits, same⟩ :=
      placePoint_eq_positional nonempty areDigits
        (digits.length + zeros + (shortest plain.tie code).exponent)
    refine ⟨whole, fraction, ?_, wholeNonempty, wholeDigits, fractionDigits, ?_⟩
    · rw [← text]
      simp only [NumberStyle.magnitude, if_neg (Nat.ne_of_gt positive), trimmed]
      rfl
    · have power : (digits.length : Int) + zeros + (shortest plain.tie code).exponent -
          digits.length = zeros + (shortest plain.tie code).exponent := by omega
      rw [power, zpow_add₀ (by norm_num), zpow_natCast, ← mul_assoc] at same
      calc codeOfDecimal (digitsValue (whole ++ fraction)) (-(fraction.length : Int))
          = codeOfDecimal (shortest plain.tie code).digits (shortest plain.tie code).exponent := by
            apply codeOfDecimal_congr
            rw [same, ← value]
            push_cast
            rfl
        _ = code := reads

/-! ## Numerals -/

theorem takeSign_of_digit {char : Char} (digit : char.isDigit = true) (rest : List Char) :
    takeSign (char :: rest) = (false, char :: rest) := by
  rw [takeSign]
  · rintro _ ⟨⟩
    cases digit
  · rintro _ ⟨⟩
    cases digit

/-- A text with a minus or no sign in front. -/
abbrev signed (negative : Bool) (text : List Char) : List Char :=
  (if negative then ['-'] else []) ++ text

theorem takeSign_signed (negative : Bool) {whole : List Char} (nonempty : whole ≠ [])
    (digits : AllDigits whole) (rest : List Char) :
    takeSign (signed negative (whole ++ rest)) = (negative, whole ++ rest) := by
  cases negative with
  | true => rfl
  | false =>
    cases whole with
    | nil => exact absurd rfl nonempty
    | cons first more => exact takeSign_of_digit (digits first List.mem_cons_self) _

/-- A sign in front of digits. -/
theorem sign_signed (negative : Bool) {whole : List Char} (nonempty : whole ≠ [])
    (digits : AllDigits whole) (rest : List Char) :
    Split.sign (signed negative (whole ++ rest)) =
      ⟨if negative then ['-'] else [], whole ++ rest, rfl⟩ := by
  apply Split.eq_of_front
  cases negative with
  | true => rfl
  | false =>
    cases whole with
    | nil => exact absurd rfl nonempty
    | cons first more =>
      have digit := digits first List.mem_cons_self
      show (Split.sign (first :: (more ++ rest))).front = []
      rw [Split.sign]
      · rfl
      · rintro _ ⟨⟩
        cases digit
      · rintro _ ⟨⟩
        cases digit

/-- Reading a sign and digits around a point. -/
theorem read?_positional (negative : Bool) {whole fraction : List Char} (nonempty : whole ≠ [])
    (wholeDigits : AllDigits whole) (fractionDigits : AllDigits fraction) :
    Numeral.read? (signed negative (positional whole fraction)) =
      some ⟨negative, digitsValue (whole ++ fraction), -(fraction.length : Int)⟩ := by
  have front : whole.isEmpty = false := List.isEmpty_eq_false_iff.mpr nonempty
  rw [Numeral.read?, positional, takeSign_signed negative nonempty wholeDigits]
  cases fraction with
  | nil =>
    obtain ⟨taken, dropped⟩ := takeWhile_dropWhile_append wholeDigits (rfl : Stops _ (pointed []))
    simp only [taken, dropped, front]
    simp [pointed, readExponent?]
  | cons first more =>
    obtain ⟨taken, dropped⟩ :=
      takeWhile_dropWhile_append wholeDigits (rfl : Stops _ (pointed (first :: more)))
    obtain ⟨takenFraction, droppedFraction⟩ :=
      takeWhile_dropWhile_append fractionDigits (rfl : Stops _ [])
    rw [List.append_nil] at takenFraction droppedFraction
    have point : pointed (first :: more) = '.' :: first :: more := rfl
    simp only [taken, dropped, front]
    simp only [point, takenFraction, droppedFraction]
    simp [readExponent?]

/-- The plain text of a finite number is a sign with digits around a point, which is a numeral of
the number. -/
theorem plain_chars_eq_signed {number : Float} (finite : number.isFinite = true) :
    ∃ negative whole fraction, plain.chars number = signed negative (positional whole fraction) ∧
      whole ≠ [] ∧ AllDigits whole ∧ AllDigits fraction ∧
      Numeral.value ⟨negative, digitsValue (whole ++ fraction), -(fraction.length : Int)⟩ =
        number := by
  have bound := (isFinite_iff number).mp finite
  obtain ⟨whole, fraction, text, nonempty, wholeDigits, fractionDigits, reads⟩ :=
    magnitude_eq_positional bound
  refine ⟨isNegative number, whole, fraction, ?_, nonempty, wholeDigits, fractionDigits, ?_⟩
  · rw [NumberStyle.chars, isNaN_eq_false finite, if_neg Bool.false_ne_true,
      if_neg (Nat.ne_of_lt bound), text, signed]
  · rw [Numeral.value, reads, ofCode_codeOf]

end Lamplight.Decimal
