import Lamplight.Proofs.Decimal.ReadBack
import Lamplight.Proofs.Decimal.Undefined
import Lamplight.Proofs.Toml.Text
import Lamplight.Toml.Number

/-!
# Reading back numbers

A finite number is written as digits around a point, an infinite one as a word, and a whole number
as digits alone, so that each of them is read by the function that it is meant for: none looks like
a moment, and only digits with a point are a number that is no whole one.
-/

namespace Lamplight.Toml

open Text Decimal

/-! ## How numbers are written -/

/-- Whether a text does not begin with a zero before further digits. -/
def LeadsWell (text : List Char) : Prop :=
  ∀ rest, text = '0' :: rest → Stops Char.isDigit rest

theorem digitsText_leads {number : Nat} (positive : 0 < number) :
    (digitsText number).head? ≠ some '0' := by
  rw [digitsText]
  induction number using Nat.strong_induction_on with
  | _ number ih =>
    rw [Nat.toDigits_eq_if (by decide)]
    split
    · next small =>
      interval_cases number <;> decide
    · next large =>
      rw [List.head?_append_of_ne_nil _ Nat.toDigits_ne_nil]
      exact ih (number / 10) (Nat.div_lt_self positive (by decide))
        (Nat.div_pos (Nat.le_of_not_lt large) (by decide))

/-- A text with a point and a zero behind it, unless it has a point. -/
def withPoint (text : List Char) : List Char :=
  if '.' ∈ text then text else text ++ ['.', '0']

theorem not_mem_of_allDigits {text : List Char} (digits : AllDigits text) {char : Char}
    (other : char.isDigit = false) : char ∉ text := by
  intro member
  rw [digits char member] at other
  cases other

theorem withPoint_positional {whole : List Char} (digits : AllDigits whole) (fraction : List Char) :
    withPoint (positional whole fraction) =
      positional whole (if fraction = [] then ['0'] else fraction) := by
  have noPoint : '.' ∉ whole := not_mem_of_allDigits digits rfl
  rw [withPoint, positional, positional, pointed, pointed]
  split_ifs with inside empty
  all_goals simp_all

theorem placePoint_true {digits : List Char} (areDigits : AllDigits digits) (point : Int) :
    placePoint true digits point = withPoint (placePoint false digits point) := by
  have noPoint : '.' ∉ digits := not_mem_of_allDigits areDigits rfl
  rw [placePoint, placePoint, withPoint]
  split_ifs
  all_goals simp_all [List.mem_replicate]

theorem magnitude_eq_withPoint (code : Nat) :
    numberStyle.magnitude code = withPoint (plain.magnitude code) := by
  rcases Nat.eq_zero_or_pos code with rfl | positive
  · rfl
  · obtain ⟨digits, zeros, trimmed, areDigits, -⟩ :=
      dropTrailingZeros_digitsText (shortest .away code).digits
    have nonzero := Nat.ne_of_gt positive
    simp only [NumberStyle.magnitude, numberStyle, plain, if_neg nonzero, trimmed, if_true]
    exact placePoint_true areDigits _

theorem leadsWell_placePoint {digits : List Char} (nonempty : digits ≠ [])
    (leads : digits.head? ≠ some '0') (point : Int) :
    LeadsWell (placePoint false digits point) := by
  obtain ⟨first, more, rfl⟩ := List.exists_cons_of_ne_nil nonempty
  have other : first ≠ '0' := fun same => leads (congrArg some same)
  intro rest equal
  rw [placePoint] at equal
  split at equal
  · rw [← (List.cons_eq_cons.mp equal).2]
    rfl
  · split at equal
    · exact absurd (List.cons_eq_cons.mp equal).1 other
    · next inside _ =>
      obtain ⟨place, same⟩ : ∃ place, point.toNat = place + 1 := ⟨point.toNat - 1, by omega⟩
      rw [same, List.take_succ_cons] at equal
      exact absurd (List.cons_eq_cons.mp equal).1 other

/-- The digits of a positive number begin with no zero, also without the zeros at their end. -/
theorem dropTrailingZeros_leads {number : Nat} (positive : 0 < number) :
    (dropTrailingZeros (digitsText number)).1 ≠ [] ∧
      (dropTrailingZeros (digitsText number)).1.head? ≠ some '0' := by
  have parts := dropTrailingZeros_append (digitsText number)
  have leads := digitsText_leads positive
  rw [← parts] at leads
  have nonempty : (dropTrailingZeros (digitsText number)).1 ≠ [] := by
    intro empty
    rw [empty, List.nil_append] at parts leads
    cases zeros : (dropTrailingZeros (digitsText number)).2 with
    | zero =>
      rw [zeros] at parts
      exact Nat.toDigits_ne_nil parts.symm
    | succ count =>
      rw [zeros] at leads
      exact leads rfl
  rw [List.head?_append_of_ne_nil _ nonempty] at leads
  exact ⟨nonempty, leads⟩

theorem leadsWell_magnitude {code : Nat} (finite : code < infinityCode) :
    LeadsWell (plain.magnitude code) := by
  rcases Nat.eq_zero_or_pos code with rfl | positive
  · intro rest equal
    rw [← (List.cons_eq_cons.mp equal).2]
    rfl
  · have reads := codeOfDecimal_shortest plain.tie finite
    have digitsPositive : 0 < (shortest plain.tie code).digits := by
      refine Nat.pos_of_ne_zero fun zero => ?_
      rw [zero] at reads
      exact Nat.ne_of_gt positive reads.symm
    obtain ⟨nonempty, leads⟩ := dropTrailingZeros_leads digitsPositive
    rw [NumberStyle.magnitude, if_neg (Nat.ne_of_gt positive)]
    exact leadsWell_placePoint nonempty leads _

theorem LeadsWell.of_append {front back : List Char} (leads : LeadsWell (front ++ back)) :
    LeadsWell front := by
  rintro rest rfl
  have stops := leads (rest ++ back) rfl
  cases rest with
  | nil => rfl
  | cons first more => exact stops

/-- The text of a finite code: its digits are read as the code. -/
theorem magnitude_eq_pointed {code : Nat} (finite : code < infinityCode) :
    ∃ whole fraction, numberStyle.magnitude code = positional whole fraction ∧
      whole ≠ [] ∧ fraction ≠ [] ∧ AllDigits whole ∧ AllDigits fraction ∧ LeadsWell whole ∧
      codeOfDecimal (digitsValue (whole ++ fraction)) (-(fraction.length : Int)) = code := by
  obtain ⟨whole, fraction, text, nonempty, wholeDigits, fractionDigits, reads⟩ :=
    magnitude_eq_positional finite
  have leads := leadsWell_magnitude finite
  rw [text] at leads
  refine ⟨whole, if fraction = [] then ['0'] else fraction, ?_, nonempty, ?_, wholeDigits, ?_,
    leads.of_append, ?_⟩
  · rw [magnitude_eq_withPoint, text, withPoint_positional wholeDigits]
  · split_ifs with empty
    · exact List.cons_ne_nil _ _
    · exact empty
  · split_ifs
    · exact allDigits_zeros 1
    · exact fractionDigits
  · split_ifs with empty
    · subst empty
      rw [← reads]
      apply codeOfDecimal_congr
      rw [digitsValue_append, List.append_nil]
      have zero : digitsValue ['0'] = 0 := rfl
      simp only [zero, List.length_singleton, List.length_nil]
      push_cast
      norm_num
      ring
    · exact reads

/-- A finite number is written as digits around a point, which are a numeral of the number. -/
theorem numberStyle_chars_eq_signed {number : Float} (finite : number.isFinite = true) :
    ∃ negative whole fraction,
      numberStyle.chars number = signed negative (positional whole fraction) ∧
      whole ≠ [] ∧ fraction ≠ [] ∧ AllDigits whole ∧ AllDigits fraction ∧ LeadsWell whole ∧
      Numeral.value ⟨negative, digitsValue (whole ++ fraction), -(fraction.length : Int)⟩ =
        number := by
  have bound := (isFinite_iff number).mp finite
  obtain ⟨whole, fraction, text, nonempty, pointed, wholeDigits, fractionDigits, leads, reads⟩ :=
    magnitude_eq_pointed bound
  refine ⟨isNegative number, whole, fraction, ?_, nonempty, pointed, wholeDigits, fractionDigits,
    leads, ?_⟩
  · rw [NumberStyle.chars, Decimal.isNaN_eq_false finite, if_neg Bool.false_ne_true,
      if_neg (Nat.ne_of_lt bound), text, signed]
  · rw [Numeral.value, reads, ofCode_codeOf]

/-- An infinite number is written as a word, with a minus if it is negative. -/
theorem numberStyle_chars_of_infinite {number : Float} (isNumber : number.isNaN = false)
    (infinite : number.isFinite = false) :
    numberStyle.chars number = signed (isNegative number) ['i', 'n', 'f'] ∧
      ofCode (isNegative number) infinityCode = number := by
  have code : codeOf number = infinityCode :=
    codeOf_eq_infinityCode (Bool.eq_false_iff.mp isNumber) (Bool.eq_false_iff.mp infinite)
  constructor
  · rw [NumberStyle.chars, isNumber, if_neg Bool.false_ne_true, if_pos code]
    rfl
  · rw [← code, ofCode_codeOf]

/-! ## Digits -/

/-- Whether a text does not go on with digits or with what may stand between them. -/
abbrev EndsDigits (rest : List Char) : Prop := Stops (fun char => char.isDigit || char == '_') rest

section Digits

variable {digits rest : List Char}

theorem digitRun_of_ends (ends : EndsDigits rest) :
    (digitRun Char.isDigit rest).front = [] := by
  cases rest with
  | nil => rfl
  | cons char more =>
    have other : (char.isDigit || char == '_') = false := ends
    rw [Bool.or_eq_false_iff] at other
    rw [digitRun, if_neg (by rw [other.1]; exact Bool.false_ne_true)]
    · rfl
    · rintro _ _ rfl
      cases other.2

theorem front_digitRun (areDigits : AllDigits digits) (ends : EndsDigits rest) :
    (digitRun Char.isDigit (digits ++ rest)).front = digits := by
  induction digits with
  | nil => exact digitRun_of_ends ends
  | cons char more ih =>
    have digit := areDigits char List.mem_cons_self
    rw [List.cons_append, digitRun, if_pos digit]
    · exact congrArg (char :: ·) (ih fun other member => areDigits other (.tail char member))
    · rintro _ _ rfl
      cases digit

/-- Digits are read up to the first character that does not belong to them. -/
theorem digitRun_eq (areDigits : AllDigits digits) (ends : EndsDigits rest) :
    digitRun Char.isDigit (digits ++ rest) = ⟨digits, rest, rfl⟩ :=
  Split.eq_of_front (front_digitRun areDigits ends)

theorem someDigits?_eq (nonempty : digits ≠ []) (areDigits : AllDigits digits)
    (ends : EndsDigits rest) :
    someDigits? Char.isDigit (digits ++ rest) = some ⟨digits, rest, rfl⟩ := by
  cases digits with
  | nil => exact absurd rfl nonempty
  | cons char more =>
    have first : (char :: more ++ rest).head?.any Char.isDigit = true :=
      areDigits char List.mem_cons_self
    rw [someDigits?, if_pos first, digitRun_eq areDigits ends]

theorem wholeDigits?_eq (nonempty : digits ≠ []) (areDigits : AllDigits digits)
    (leads : LeadsWell digits) (ends : EndsDigits rest) :
    wholeDigits? (digits ++ rest) = some ⟨digits, rest, rfl⟩ := by
  by_cases zero : ∃ more, digits = '0' :: more
  · obtain ⟨more, rfl⟩ := zero
    have stops := leads more rfl
    cases more with
    | nil => rfl
    | cons next others =>
      have digit := areDigits next (List.mem_cons_of_mem _ List.mem_cons_self)
      have other : next.isDigit = false := stops
      rw [digit] at other
      cases other
  · rw [wholeDigits?]
    · exact someDigits?_eq nonempty areDigits ends
    · intro more equal
      cases digits with
      | nil => exact nonempty rfl
      | cons first others =>
        rw [(List.cons_eq_cons.mp equal).1] at zero
        exact zero ⟨others, rfl⟩

theorem decimal?_eq (negative : Bool) (nonempty : digits ≠ []) (areDigits : AllDigits digits)
    (leads : LeadsWell digits) (ends : EndsDigits rest) :
    decimal? (signed negative (digits ++ rest)) =
      some ⟨signed negative digits, rest, by rw [signed, signed, List.append_assoc]⟩ := by
  rw [decimal?, sign_signed negative nonempty areDigits,
    wholeDigits?_eq nonempty areDigits leads ends]
  rfl

theorem plainDigits_eq {text : List Char} (noMark : '_' ∉ text) : plainDigits text = text := by
  rw [plainDigits, List.filter_eq_self]
  intro char member
  have other : char ≠ '_' := fun equal => noMark (equal ▸ member)
  exact decide_eq_true other

/-- A point and digits are read, before what is no power of ten. -/
theorem tail?_eq {fraction : List Char} (nonempty : fraction ≠ []) (areDigits : AllDigits fraction)
    (ends : EndsDigits rest) (noPower : Stops (fun char => char == 'e' || char == 'E') rest) :
    tail? ('.' :: (fraction ++ rest)) = some ⟨'.' :: fraction, rest, rfl⟩ := by
  have pointed : fraction? ('.' :: (fraction ++ rest)) = some ⟨'.' :: fraction, rest, rfl⟩ := by
    rw [fraction?, someDigits?_eq nonempty areDigits ends]
    rfl
  have noExponent : exponent? ('.' :: (fraction ++ rest)) = none := rfl
  rw [tail?, noExponent, pointed]
  cases rest with
  | nil => rfl
  | cons mark more =>
    have other : (mark == 'e' || mark == 'E') = false := noPower
    rw [Bool.or_eq_false_iff, beq_eq_false_iff_ne, beq_eq_false_iff_ne] at other
    exact if_neg (not_or.mpr other)

end Digits

/-! ## What is no moment -/

section Moment

variable {count low high value : Nat} {text rest : List Char}

/-- Whether a text does not begin with digits before a mark that moments have. -/
def Undated (text : List Char) : Prop :=
  Stops Char.isDigit text ∨
    Stops (fun char => char == '-' || char == ':') (text.dropWhile Char.isDigit)

theorem digits?_cases (read : digits? (count + 1) text = some (value, rest)) :
    text.head?.any Char.isDigit = true ∧
      text.dropWhile Char.isDigit = rest.dropWhile Char.isDigit := by
  rw [digits?] at read
  split at read
  · next every =>
    obtain ⟨length, areDigits⟩ := every
    cases read
    rw [List.all_eq_true] at areDigits
    constructor
    · cases text with
      | nil => cases length
      | cons char more => exact areDigits char List.mem_cons_self
    · conv => lhs; rw [← List.take_append_drop (count + 1) text]
      exact List.dropWhile_append_of_pos areDigits
  · cases read

theorem behind?_cases {mark : Char} (read : behind? [mark] text = some rest) :
    text = mark :: rest := by
  cases text with
  | nil => cases read
  | cons char more =>
    rw [behind?] at read
    split at read
    · next same =>
      cases read
      rw [show char = mark by simpa using same]
    · cases read

/-- Digits with a mark behind them are where a date or a time begins. -/
theorem dropWhile_of_marked {mark : Char} (noDigit : mark.isDigit = false) {after : List Char}
    (digits : digits? (count + 1) text = some (value, rest))
    (marked : behind? [mark] rest = some after) :
    text.head?.any Char.isDigit = true ∧ text.dropWhile Char.isDigit = mark :: after := by
  obtain ⟨head, same⟩ := digits?_cases digits
  refine ⟨head, same.trans ?_⟩
  rw [behind?_cases marked, List.dropWhile_cons_of_neg (by rw [noDigit]; exact Bool.false_ne_true)]

/-- A text that is not dated has no mark behind digits at its start. -/
theorem Undated.not_marked (undated : Undated text) {mark : Char}
    (isMark : (mark == '-' || mark == ':') = true) {after : List Char}
    (digits : digits? (count + 1) text = some (value, rest)) :
    behind? [mark] rest ≠ some after := by
  intro marked
  have noDigit : mark.isDigit = false := by
    rw [Bool.or_eq_true, beq_iff_eq, beq_iff_eq] at isMark
    rcases isMark with rfl | rfl <;> rfl
  obtain ⟨head, same⟩ := dropWhile_of_marked noDigit digits marked
  rcases undated with stops | stops
  · cases head.symm.trans stops
  · rw [same] at stops
    cases isMark.symm.trans stops

theorem date?_eq_none (undated : Undated text) : date? text = none := by
  rw [Option.eq_none_iff_forall_ne_some]
  intro found read
  simp only [date?, Option.bind_eq_bind, Option.bind_eq_some_iff] at read
  obtain ⟨year, digits, after, marked, -⟩ := read
  exact undated.not_marked rfl digits marked

theorem clock?_eq_none (undated : Undated text) : clock? text = none := by
  rw [Option.eq_none_iff_forall_ne_some]
  intro found read
  simp only [clock?, field?, Option.bind_eq_bind, Option.bind_eq_some_iff] at read
  obtain ⟨hour, ⟨⟨value, left⟩, digits, within⟩, after, marked, -⟩ := read
  split at within
  · cases within
    exact undated.not_marked rfl digits marked
  · cases within

theorem moment?_eq_none (undated : Undated text) : moment? text = none := by
  rw [moment?, date?_eq_none undated]
  simp only [clock?_eq_none undated]
  rfl

end Moment

/-! ## Numbers -/

/-- Whether what follows a value is none of its characters: the end of a line, or the comma or the
bracket of an array. -/
abbrev EndsValue (rest : List Char) : Prop :=
  Stops (fun char => !(char == '\n' || char == ',' || char == ']')) rest

theorem EndsValue.stops {rest : List Char} (ends : EndsValue rest) {property : Char → Bool}
    (lineEnd : property '\n' = false) (comma : property ',' = false)
    (bracket : property ']' = false) : Stops property rest := by
  refine ends.mono fun char holds => ?_
  rw [Bool.not_eq_true', Bool.or_eq_false_iff, Bool.or_eq_false_iff, beq_eq_false_iff_ne,
    beq_eq_false_iff_ne, beq_eq_false_iff_ne]
  refine ⟨⟨?_, ?_⟩, ?_⟩
  · rintro rfl
    cases lineEnd.symm.trans holds
  · rintro rfl
    cases comma.symm.trans holds
  · rintro rfl
    cases bracket.symm.trans holds

section Numbers

variable {rest : List Char} {number : Float}

theorem takes_float?_finite (finite : number.isFinite = true) (ends : EndsValue rest) :
    Takes float? (numberStyle.chars number ++ rest) number rest := by
  obtain ⟨negative, whole, fraction, text, nonempty, pointed, wholeDigits, fractionDigits, leads,
    value⟩ := numberStyle_chars_eq_signed finite
  have spelled : signed negative whole ++ '.' :: fraction = numberStyle.chars number := by
    rw [text]
    simp [signed, positional, Text.pointed, pointed]
  have shape : numberStyle.chars number ++ rest =
      signed negative (whole ++ '.' :: (fraction ++ rest)) := by
    rw [← spelled]
    simp [signed]
  have noMark : '_' ∉ signed negative whole ++ '.' :: fraction := by
    have inWhole : '_' ∉ whole := not_mem_of_allDigits wholeDigits rfl
    have inFraction : '_' ∉ fraction := not_mem_of_allDigits fractionDigits rfl
    cases negative <;> simp [signed, inWhole, inFraction]
  have numeral := read?_positional negative nonempty wholeDigits fractionDigits
  rw [← text, ← spelled] at numeral
  have notInfinite : number.isInf = false := by
    rw [← Bool.not_eq_true]
    intro infinite
    cases finite.symm.trans (isFinite_eq_false infinite)
  have pointEnds : EndsDigits ('.' :: (fraction ++ rest)) := rfl
  have wholeRead := decimal?_eq negative nonempty wholeDigits leads pointEnds
  have tailRead := tail?_eq pointed fractionDigits (ends.stops rfl rfl rfl)
    (ends.stops rfl rfl rfl)
  have shorter : rest.length < (signed negative (whole ++ '.' :: (fraction ++ rest))).length := by
    simp [signed]
    omega
  rw [Takes, shape, float?, wholeRead]
  dsimp only
  rw [tailRead]
  simp only [Split.append, plainDigits_eq noMark, numeral, Option.bind_eq_bind, Option.bind_some,
    value, notInfinite, Found.ofRest?]
  exact ⟨_, dif_pos shorter, rfl, rfl⟩

theorem takes_float?_infinite (isNumber : number.isNaN = false) (infinite : number.isFinite = false)
    (rest : List Char) :
    Takes float? (numberStyle.chars number ++ rest) number rest := by
  obtain ⟨text, same⟩ := numberStyle_chars_of_infinite isNumber infinite
  rw [Takes, text]
  cases negative : isNegative number with
  | true =>
    rw [negative] at same
    refine ⟨⟨ofCode true infinityCode, rest, by simp [signed]; omega⟩, ?_, same, rfl⟩
    exact dif_pos (by simp; omega)
  | false =>
    rw [negative] at same
    refine ⟨⟨ofCode false infinityCode, rest, by simp [signed]; omega⟩, ?_, same, rfl⟩
    exact dif_pos (by simp; omega)

/-- The text of a number is read as the number. -/
theorem takes_float? (isNumber : number.isNaN = false) (ends : EndsValue rest) :
    Takes float? (numberStyle.chars number ++ rest) number rest := by
  cases finite : number.isFinite with
  | true => exact takes_float?_finite finite ends
  | false => exact takes_float?_infinite isNumber finite rest

theorem undated_signed (negative : Bool) {digits rest : List Char} (areDigits : AllDigits digits)
    (noDigit : Stops Char.isDigit rest)
    (noMark : Stops (fun char => char == '-' || char == ':') rest) :
    Undated (signed negative (digits ++ rest)) := by
  cases negative with
  | true => exact .inl rfl
  | false =>
    refine .inr ?_
    have dropped := (takeWhile_dropWhile_append areDigits noDigit).2
    rwa [signed, if_neg Bool.false_ne_true, List.nil_append, dropped]

/-- The text of a number is not taken for a moment. -/
theorem undated_number (isNumber : number.isNaN = false) (rest : List Char) :
    Undated (numberStyle.chars number ++ rest) := by
  cases finite : number.isFinite with
  | true =>
    obtain ⟨negative, whole, fraction, text, -, pointed, wholeDigits, -⟩ :=
      numberStyle_chars_eq_signed finite
    have shape : numberStyle.chars number ++ rest =
        signed negative (whole ++ '.' :: (fraction ++ rest)) := by
      rw [text]
      simp [signed, positional, Text.pointed, pointed]
    rw [shape]
    exact undated_signed negative wholeDigits rfl rfl
  | false =>
    rw [(numberStyle_chars_of_infinite isNumber finite).1]
    cases isNegative number with
    | true => exact .inl rfl
    | false => exact .inl rfl

end Numbers

/-! ## Whole numbers -/

section Integers

variable {value : Int} {rest : List Char}

/-- A whole number is written as its digits, with a minus if it is negative. -/
theorem toString_toList (value : Int) :
    (toString value).toList = signed (value < 0) (digitsText value.natAbs) := by
  rw [Int.toString_eq_repr, Int.repr_eq_if]
  split
  · next nonneg =>
    have sign : decide (value < 0) = false := decide_eq_false (Int.not_lt.mpr nonneg)
    have same : value.toNat = value.natAbs := by omega
    rw [Nat.toList_repr, sign, same]
    rfl
  · next negative =>
    have sign : decide (value < 0) = true := decide_eq_true (Int.not_le.mp negative)
    have same : (-value).toNat = value.natAbs := by omega
    rw [String.toList_append, Nat.toList_repr, sign, same]
    rfl

theorem digitsText_ne_nil (number : Nat) : digitsText number ≠ [] := Nat.toDigits_ne_nil

theorem leadsWell_digitsText (number : Nat) : LeadsWell (digitsText number) := by
  rcases Nat.eq_zero_or_pos number with rfl | positive
  · intro rest equal
    rw [← (List.cons_eq_cons.mp equal).2]
    rfl
  · intro rest equal
    have leads := digitsText_leads positive
    rw [equal] at leads
    exact absurd rfl leads

theorem tail?_eq_none (ends : EndsValue rest) : tail? rest = none := by
  have noPower : Stops (fun char => char == 'e' || char == 'E') rest := ends.stops rfl rfl rfl
  have noPoint : Stops (· == '.') rest := ends.stops rfl rfl rfl
  cases rest with
  | nil => rfl
  | cons char more =>
    have other : (char == 'e' || char == 'E') = false := noPower
    have notPoint : (char == '.') = false := noPoint
    rw [Bool.or_eq_false_iff, beq_eq_false_iff_ne, beq_eq_false_iff_ne] at other
    have noExponent : exponent? (char :: more) = none := if_neg (not_or.mpr other)
    have noFraction : fraction? (char :: more) = none := by
      rw [fraction?]
      rintro _ ⟨⟩
      cases notPoint
    rw [tail?, noExponent, noFraction]
    rfl

theorem undated_integer (ends : EndsValue rest) (value : Int) :
    Undated ((toString value).toList ++ rest) := by
  rw [toString_toList, signed, List.append_assoc]
  exact undated_signed _ (allDigits_digitsText _) (ends.stops rfl rfl rfl) (ends.stops rfl rfl rfl)

theorem decimal?_integer (ends : EndsValue rest) (value : Int) :
    ∃ split, decimal? ((toString value).toList ++ rest) = some split ∧
      split.front = signed (value < 0) (digitsText value.natAbs) ∧ split.rest = rest := by
  have shape : (toString value).toList ++ rest =
      signed (value < 0) (digitsText value.natAbs ++ rest) := by
    rw [toString_toList, signed, signed, List.append_assoc]
  rw [shape, decimal?_eq _ (digitsText_ne_nil _) (allDigits_digitsText _) (leadsWell_digitsText _)
    (ends.stops rfl rfl rfl)]
  exact ⟨_, rfl, rfl, rfl⟩

/-- A whole number is not taken for one that is not. -/
theorem float?_integer (ends : EndsValue rest) (value : Int) :
    float? ((toString value).toList ++ rest) = none := by
  obtain ⟨split, read, -, left⟩ := decimal?_integer ends value
  have noTail : tail? split.rest = none := by
    rw [left]
    exact tail?_eq_none ends
  rw [float?, read]
  dsimp only
  rw [noTail]

/-- A whole number has no mark of another base. -/
theorem toString_ne_based (ends : EndsValue rest) (value : Int) {mark : Char}
    (isMark : (mark == 'x' || mark == 'o' || mark == 'b') = true) (more : List Char) :
    (toString value).toList ++ rest ≠ '0' :: mark :: more := by
  intro equal
  have noMark : Stops (fun char => char == 'x' || char == 'o' || char == 'b') rest :=
    ends.stops rfl rfl rfl
  rw [toString_toList] at equal
  obtain ⟨digits, same⟩ : ∃ digits, digits = digitsText value.natAbs := ⟨_, rfl⟩
  have areDigits := allDigits_digitsText value.natAbs
  have leads := leadsWell_digitsText value.natAbs
  have nonempty := digitsText_ne_nil value.natAbs
  rw [← same] at equal areDigits leads nonempty
  by_cases negative : value < 0
  · simp [signed, negative] at equal
  · simp only [signed, negative, decide_false, Bool.false_eq_true, if_false, List.nil_append]
      at equal
    obtain ⟨first, others, rfl⟩ := List.exists_cons_of_ne_nil nonempty
    obtain ⟨rfl, behind⟩ := List.cons_eq_cons.mp equal
    have stops := leads others rfl
    cases others with
    | nil =>
      rw [show rest = mark :: more from behind] at noMark
      cases isMark.symm.trans noMark
    | cons next others =>
      cases (areDigits next (.tail _ (.head _))).symm.trans stops

/-- The text of a whole number is read as the number. -/
theorem takes_integer? (low : -(signBit : Int) ≤ value) (high : value < signBit)
    (ends : EndsValue rest) :
    Takes integer? ((toString value).toList ++ rest) value rest := by
  obtain ⟨split, read, front, left⟩ := decimal?_integer ends value
  have noMark : '_' ∉ split.front := by
    have inDigits : '_' ∉ digitsText value.natAbs :=
      not_mem_of_allDigits (allDigits_digitsText _) rfl
    rw [front]
    by_cases negative : value < 0 <;> simp [signed, negative, inDigits]
  have sign : takeSign (plainDigits split.front) =
      (decide (value < 0), digitsText value.natAbs) := by
    have taken := takeSign_signed (value < 0) (digitsText_ne_nil value.natAbs)
      (allDigits_digitsText value.natAbs) []
    rw [List.append_nil] at taken
    rw [plainDigits_eq noMark, front, taken]
  have shorter : split.rest.length < ((toString value).toList ++ rest).length := by
    refine split.length_rest_lt ?_
    rw [front]
    simp [signed, digitsText_ne_nil]
  rw [Takes, integer?]
  · simp only [read, Option.bind_eq_bind, Option.bind_some, sign, digitsValue_digitsText,
      Found.ofRest?, decide_eq_true_eq]
    split_ifs with small negative least
    · refine ⟨_, rfl, ?_, left⟩
      show -(value.natAbs : Int) = value
      omega
    · refine ⟨_, rfl, ?_, left⟩
      show (value.natAbs : Int) = value
      omega
    · refine ⟨_, rfl, ?_, left⟩
      show -(value.natAbs : Int) = value
      omega
    · omega
  · exact toString_ne_based ends value rfl
  · exact toString_ne_based ends value rfl
  · exact toString_ne_based ends value rfl

end Integers

end Lamplight.Toml
