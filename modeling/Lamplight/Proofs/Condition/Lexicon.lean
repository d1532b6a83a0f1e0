import Lamplight.Condition.Lexeme
import Lamplight.Proofs.Decimal.ReadBack

/-!
# Which texts are tokens

`Token.Spelled` says which texts spell a token, and by which characters each of them could grow.
A token is cut off a text just when the text starts with such a spelling and none of these
characters follows it (`Cuts.spelled`, `Token.Spelled.cuts`).  So a token depends on its own
characters and on the one behind them: what follows it may be replaced by anything it cannot grow
into.
-/

namespace Lamplight

open Text Decimal

/-! ## What ends a number -/

/-- A text that is no continuation of a number. -/
abbrev EndsNumber (rest : List Char) : Prop := Stops Lexeme.continuesNumber rest

theorem continuesNumber_of_isAlphanumeric {char : Char} (letter : isAlphanumeric char = true) :
    Lexeme.continuesNumber char = true := by
  rw [Lexeme.continuesNumber, letter, Bool.true_or, Bool.true_or]

theorem continuesNumber_of_isDigit (char : Char) (digit : char.isDigit = true) :
    Lexeme.continuesNumber char = true := by
  have codes : ∀ code ∈ List.range' 48 10, alphanumericRanges.contains code = true := by
    decide +kernel
  have code : char.toNat ∈ List.range' 48 10 := by
    have bounds := Char.isDigit_iff_toNat.mp digit
    exact List.mem_range'_1.mpr ⟨bounds.1, Nat.lt_succ_of_le bounds.2⟩
  exact continuesNumber_of_isAlphanumeric (codes char.toNat code)

theorem endsNumber_cons {char : Char} (other : Lexeme.continuesNumber char = false)
    (rest : List Char) : EndsNumber (char :: rest) := by
  rw [EndsNumber, Stops, List.head?_cons, Option.any_some]
  exact other

theorem endsNumber_blank (rest : List Char) : EndsNumber (' ' :: rest) :=
  endsNumber_cons (by decide +kernel) rest

theorem endsNumber_closing (rest : List Char) : EndsNumber (')' :: rest) :=
  endsNumber_cons (by decide +kernel) rest

namespace EndsNumber

variable {rest : List Char}

theorem noDigit (ends : EndsNumber rest) : Stops Char.isDigit rest :=
  ends.mono continuesNumber_of_isDigit

theorem noPoint (ends : EndsNumber rest) : Stops (· == '.') rest := by
  refine ends.mono ?_
  intro char point
  rw [Lexeme.continuesNumber, point, Bool.or_true]

theorem noExponent (ends : EndsNumber rest) :
    Stops (fun char => char == 'e' || char == 'E') rest := by
  refine ends.mono ?_
  intro char mark
  rw [Bool.or_eq_true, beq_iff_eq, beq_iff_eq] at mark
  rcases mark with rfl | rfl
  · exact continuesNumber_of_isAlphanumeric (by decide +kernel)
  · exact continuesNumber_of_isAlphanumeric (by decide +kernel)

end EndsNumber

/-- The letters of ASCII lie in two ranges. -/
theorem toNat_of_isAlpha {char : Char} (letter : char.isAlpha = true) :
    (0x41 ≤ char.toNat ∧ char.toNat ≤ 0x5a) ∨ (0x61 ≤ char.toNat ∧ char.toNat ≤ 0x7a) := by
  have either : char.isUpper = true ∨ char.isLower = true := (Bool.or_eq_true _ _).mp letter
  rcases either with upper | lower
  · exact .inl (of_decide_eq_true upper)
  · have bounds := (Bool.and_eq_true _ _).mp lower
    exact .inr ⟨of_decide_eq_true bounds.1, of_decide_eq_true bounds.2⟩

theorem toNat_lt_of_isAlphanum {char : Char} (alphanumeric : char.isAlphanum = true) :
    char.toNat < 128 := by
  have either : char.isAlpha = true ∨ char.isDigit = true :=
    (Bool.or_eq_true _ _).mp alphanumeric
  rcases either with letter | digit
  · have bounds := toNat_of_isAlpha letter
    omega
  · have bound : char.toNat ≤ 0x39 := of_decide_eq_true ((Bool.and_eq_true _ _).mp digit).2
    omega

/-- What a word goes on with, a number must not be followed by. -/
theorem continuesNumber_of_continuesWord (char : Char)
    (continues : Lexeme.continuesWord char = true) : Lexeme.continuesNumber char = true := by
  have codes : ∀ code < 128, (Char.ofNat code).isAlphanum = true →
      alphanumericRanges.contains code = true := by
    decide +kernel
  rw [Lexeme.continuesWord, Bool.or_eq_true] at continues
  rcases continues with letter | underscore
  · refine continuesNumber_of_isAlphanumeric (codes _ (toNat_lt_of_isAlphanum letter) ?_)
    rwa [Char.ofNat_toNat]
  · rw [Lexeme.continuesNumber, underscore, Bool.or_true, Bool.true_or]

/-! ## Numerals -/

/-- A sign or nothing. -/
def OptionalSign (text : List Char) : Prop := text = [] ∨ text = ['-'] ∨ text = ['+']

/-- Whether a character is a sign. -/
def isSign (char : Char) : Bool := char == '-' || char == '+'

theorem isSign_of_isDigit {char : Char} (digit : char.isDigit = true) : isSign char = false := by
  rw [isSign, Bool.or_eq_false_iff, beq_eq_false_iff_ne, beq_eq_false_iff_ne]
  constructor
  · rintro rfl
    cases digit
  · rintro rfl
    cases digit

/-- A power of ten or nothing: an `e`, a sign or none, and digits. -/
inductive PowerText : List Char → Prop
  | none : PowerText []
  | some {mark : Char} {sign digits : List Char} (isMark : (mark == 'e' || mark == 'E') = true)
      (signed : OptionalSign sign) (nonempty : digits ≠ []) (areDigits : AllDigits digits) :
      PowerText (mark :: (sign ++ digits))

/-- The text of a numeral: a sign or none, digits before or after a point, a power of ten or
none. -/
inductive NumeralText : List Char → Prop
  | intro {sign whole fraction power : List Char} (signed : OptionalSign sign)
      (wholeDigits : AllDigits whole) (fractionDigits : AllDigits fraction)
      (present : whole ≠ [] ∨ fraction ≠ []) (isPower : PowerText power) :
      NumeralText (sign ++ (whole ++ (pointed fraction ++ power)))

/-- What a numeral can start with. -/
def StartsNumeral (char : Char) : Prop :=
  char = '-' ∨ char = '+' ∨ char = '.' ∨ char.isDigit = true

theorem StartsNumeral.noQuote {char : Char} (starts : StartsNumeral char) :
    ¬(char = '"' ∨ char = '\'') := by
  unfold StartsNumeral at starts
  rintro (rfl | rfl)
  · revert starts
    decide
  · revert starts
    decide

theorem NumeralText.starts {text : List Char} (isNumeral : NumeralText text) :
    ∃ first more, text = first :: more ∧ StartsNumeral first := by
  cases isNumeral with
  | @intro sign whole fraction power signed wholeDigits _ present _ =>
  rcases signed with rfl | rfl | rfl
  · cases whole with
    | cons first more =>
      exact ⟨first, _, rfl, .inr (.inr (.inr (wholeDigits first List.mem_cons_self)))⟩
    | nil =>
      cases fraction with
      | cons first more => exact ⟨'.', _, rfl, .inr (.inr (.inl rfl))⟩
      | nil => simp at present
  · exact ⟨'-', _, rfl, .inl rfl⟩
  · exact ⟨'+', _, rfl, .inr (.inl rfl)⟩

namespace Text.Split

variable (text : List Char)

theorem optionalSign_sign : OptionalSign (Split.sign text).front := by
  unfold Split.sign
  split
  · exact .inr (.inl rfl)
  · exact .inr (.inr rfl)
  · exact .inl rfl

theorem allDigits_digits : AllDigits (Split.digits text).front :=
  forall_mem_span text Char.isDigit

theorem fraction_front :
    ∃ digits, AllDigits digits ∧ (Split.fraction text).front = pointed digits := by
  unfold Split.fraction
  split
  · next rest =>
    dsimp only
    split
    · exact ⟨[], List.forall_mem_nil _, rfl⟩
    · next present =>
      refine ⟨(Split.digits rest).front, allDigits_digits rest, ?_⟩
      rw [List.isEmpty_iff] at present
      rw [pointed, if_neg present]
      rfl
  · exact ⟨[], List.forall_mem_nil _, rfl⟩

theorem powerText_exponent : PowerText (Split.exponent text).front := by
  unfold Split.exponent
  split
  · exact .none
  · next mark rest =>
    split
    · next isMark =>
      dsimp only
      split
      · exact .none
      · next present =>
        rw [List.isEmpty_iff] at present
        exact .some isMark (optionalSign_sign rest) present (allDigits_digits _)
    · exact .none

variable {text}

theorem sign_of_optionalSign {sign : List Char} (signed : OptionalSign sign)
    (stops : Stops isSign text) : Split.sign (sign ++ text) = ⟨sign, text, rfl⟩ := by
  apply eq_of_front
  rcases signed with rfl | rfl | rfl
  · cases text with
    | nil => rfl
    | cons first more =>
      have other : isSign first = false := stops
      show (Split.sign (first :: more)).front = []
      rw [Split.sign]
      · rfl
      · rintro _ ⟨⟩
        cases other
      · rintro _ ⟨⟩
        cases other
  · rfl
  · rfl

theorem exponent_of_powerText {power : List Char} (isPower : PowerText power)
    (ends : EndsNumber text) : Split.exponent (power ++ text) = ⟨power, text, rfl⟩ := by
  cases isPower with
  | none => exact exponent_eq ends.noExponent
  | @some mark sign digits isMark signed nonempty areDigits =>
    have noSign : Stops isSign (digits ++ text) := by
      cases digits with
      | nil => exact absurd rfl nonempty
      | cons first more => exact isSign_of_isDigit (areDigits first List.mem_cons_self)
    have span : Split.digits (digits ++ text) = ⟨digits, text, rfl⟩ :=
      span_eq areDigits ends.noDigit
    have present : digits.isEmpty = false := List.isEmpty_eq_false_iff.mpr nonempty
    apply eq_of_front
    show (Split.exponent (mark :: (sign ++ digits ++ text))).front = mark :: (sign ++ digits)
    rw [List.append_assoc, Split.exponent, if_pos isMark, sign_of_optionalSign signed noSign]
    dsimp only
    rw [span]
    simp only [present, Bool.false_eq_true, if_false, push, append]

/-- A numeral is split into its parts. -/
theorem numeral_eq {sign whole fraction power : List Char} (signed : OptionalSign sign)
    (wholeDigits : AllDigits whole) (fractionDigits : AllDigits fraction)
    (present : whole ≠ [] ∨ fraction ≠ []) (isPower : PowerText power) (ends : EndsNumber text) :
    Split.sign (sign ++ (whole ++ (pointed fraction ++ (power ++ text)))) =
      ⟨sign, whole ++ (pointed fraction ++ (power ++ text)), rfl⟩ ∧
    Split.digits (whole ++ (pointed fraction ++ (power ++ text))) =
      ⟨whole, pointed fraction ++ (power ++ text), rfl⟩ ∧
    Split.fraction (pointed fraction ++ (power ++ text)) =
      ⟨pointed fraction, power ++ text, rfl⟩ ∧
    Split.exponent (power ++ text) = ⟨power, text, rfl⟩ := by
  have noDigit : Stops Char.isDigit (power ++ text) ∧ Stops (· == '.') (power ++ text) := by
    cases isPower with
    | none => exact ⟨ends.noDigit, ends.noPoint⟩
    | @some mark _ _ isMark =>
      rw [Bool.or_eq_true, beq_iff_eq, beq_iff_eq] at isMark
      rcases isMark with rfl | rfl <;> exact ⟨rfl, rfl⟩
  refine ⟨sign_of_optionalSign signed ?_, span_eq wholeDigits ?_,
    fraction_eq fractionDigits noDigit.1 noDigit.2, exponent_of_powerText isPower ends⟩
  · cases whole with
    | cons first more => exact isSign_of_isDigit (wholeDigits first List.mem_cons_self)
    | nil =>
      cases fraction with
      | cons first more => rfl
      | nil => simp at present
  · cases fraction with
    | nil => exact noDigit.1
    | cons first more => rfl

end Text.Split

namespace Lexeme

variable {text : List Char}

/-- A number that is cut off is a numeral, and what is left does not go on with it. -/
theorem number?_eq_some {lexeme : Lexeme text} (cut : number? text = some lexeme) :
    NumeralText lexeme.split.front ∧ EndsNumber lexeme.split.rest ∧
      ∃ numeral, Numeral.read? lexeme.split.front = some numeral ∧
        lexeme.token = .number numeral.value := by
  unfold number? at cut
  dsimp only at cut
  split at cut
  · cases cut
  · next present =>
    split at cut
    · cases cut
    · next ends =>
      split at cut
      · cases cut
      · next numeral read =>
        split at cut
        · cases cut
        · cases cut
          refine ⟨?_, Bool.eq_false_iff.mpr ends, numeral, read, rfl⟩
          obtain ⟨fraction, fractionDigits, front⟩ :=
            Split.fraction_front (Split.digits (Split.sign text).rest).rest
          have shape := NumeralText.intro (Split.optionalSign_sign text)
            (Split.allDigits_digits (Split.sign text).rest) fractionDigits ?_
            (Split.powerText_exponent
              (Split.fraction (Split.digits (Split.sign text).rest).rest).rest)
          · rw [← front] at shape
            exact shape
          · rw [Bool.and_eq_true, List.isEmpty_iff, List.isEmpty_iff, front] at present
            by_contra none
            rw [not_or, not_not, not_not] at none
            apply present
            rw [none.1, none.2]
            exact ⟨rfl, rfl⟩

/-- A numeral is cut off whole where nothing behind it goes on with it. -/
theorem number?_of_numeralText {front rest : List Char} (isNumeral : NumeralText front)
    {numeral : Numeral} (read : Numeral.read? front = some numeral) (ends : EndsNumber rest) :
    ∃ lexeme, number? (front ++ rest) = some lexeme ∧ lexeme.token = .number numeral.value ∧
      lexeme.split.rest = rest := by
  cases isNumeral with
  | @intro sign whole fraction power signed wholeDigits fractionDigits present isPower =>
  obtain ⟨signSplit, wholeSplit, fractionSplit, powerSplit⟩ :=
    Split.numeral_eq signed wholeDigits fractionDigits present isPower ends
  have somePart : ¬(whole = [] ∧ pointed fraction = []) := by
    rintro ⟨rfl, noFraction⟩
    cases fraction with
    | nil => simp at present
    | cons first more => cases noFraction
  have shown : (whole.isEmpty && (pointed fraction).isEmpty) = false := by
    rw [Bool.eq_false_iff, Ne, Bool.and_eq_true, List.isEmpty_iff, List.isEmpty_iff]
    exact somePart
  have ended : rest.head?.any continuesNumber = false := ends
  have nonempty : sign ++ (whole ++ (pointed fraction ++ power)) ≠ [] := by
    simp only [ne_eq, List.append_eq_nil_iff]
    tauto
  have apart : sign ++ (whole ++ (pointed fraction ++ power)) ++ rest =
      sign ++ (whole ++ (pointed fraction ++ (power ++ rest))) := by
    simp only [List.append_assoc]
  rw [apart]
  unfold number?
  rw [signSplit]
  dsimp only
  rw [wholeSplit]
  dsimp only
  rw [fractionSplit]
  dsimp only
  rw [powerSplit]
  refine ⟨⟨.number numeral.value, ⟨_, rest, apart⟩, nonempty⟩, ?_, rfl, rfl⟩
  simp only [Split.append, shown, Bool.false_eq_true, if_false, ended, read]
  exact dif_neg nonempty

/-! ## Quoted texts -/

/-- The inside of a quoted text: a backslash stands before some character, a quote stands only
behind a backslash, and no line break stands anywhere. -/
inductive Inside (quote : Char) : List Char → Prop
  | nil : Inside quote []
  | escaped {char : Char} {more : List Char} (noBreak : char ≠ '\n') :
      Inside quote more → Inside quote ('\\' :: char :: more)
  | plain {char : Char} {more : List Char} (noQuote : char ≠ quote) (noBackslash : char ≠ '\\')
      (noBreak : char ≠ '\n') : Inside quote more → Inside quote (char :: more)

variable {quote : Char}

theorem inside_of_body? {body : Body quote text} (read : body? quote text = some body) :
    Inside quote body.inside := by
  fun_induction body? quote text with
  | case1 => cases read
  | case2 =>
    cases read
    exact .nil
  | case3 => cases read
  | case4 => cases read
  | case5 escaped rest noBreak _ ih =>
    obtain ⟨inner, readInner, rfl⟩ := Option.map_eq_some_iff.mp read
    exact .escaped noBreak (ih readInner)
  | case6 => cases read
  | case7 char rest noQuote noBackslash noBreak ih =>
    obtain ⟨inner, readInner, rfl⟩ := Option.map_eq_some_iff.mp read
    exact .plain noQuote noBackslash noBreak (ih readInner)

/-- The inside of a quoted text ends at the quote behind it. -/
theorem body?_of_inside {inside : List Char} (isInside : Inside quote inside)
    (notBackslash : '\\' ≠ quote) (rest : List Char) :
    body? quote (inside ++ quote :: rest) = some ⟨inside, rest, rfl⟩ := by
  induction isInside with
  | nil =>
    show body? quote (quote :: rest) = _
    rw [body?.eq_def]
    simp only [dif_pos]
  | escaped noBreak _ ih =>
    rw [body?.eq_def]
    simp only [List.cons_append, dif_neg notBackslash, if_true, if_neg noBreak, ih, Option.map_some]
  | plain noQuote noBackslash noBreak _ ih =>
    rw [body?.eq_def]
    simp only [List.cons_append, dif_neg noQuote, if_neg noBackslash, if_neg noBreak, ih,
      Option.map_some]

end Lexeme

/-! ## Comparators and parentheses -/

/-- No character at all. -/
def noChar (_ : Char) : Bool := false

theorem stops_noChar (rest : List Char) : Stops noChar rest := by
  cases rest <;> rfl

/-- The texts of comparators and parentheses.  One of a single character could grow by a second
one, unless it is a parenthesis. -/
inductive SignText : Token → List Char → (Char → Bool) → Prop
  | equal : SignText (.comparator .equal) ['='] (· == '=')
  | less : SignText (.comparator .less) ['<'] (· == '=')
  | greater : SignText (.comparator .greater) ['>'] (· == '=')
  | doubleEqual : SignText (.comparator .equal) ['=', '='] noChar
  | lessEqual : SignText (.comparator .lessEqual) ['<', '='] noChar
  | greaterEqual : SignText (.comparator .greaterEqual) ['>', '='] noChar
  | opening : SignText .opening ['('] noChar
  | closing : SignText .closing [')'] noChar

theorem SignText.starts {token : Token} {front : List Char} {continues : Char → Bool}
    (isSign : SignText token front continues) :
    ∃ first more, front = first :: more ∧ first ∈ ['=', '<', '>', '(', ')'] := by
  cases isSign <;> exact ⟨_, _, rfl, by decide⟩

namespace Lexeme

variable {text : List Char}

theorem stops_equal {rest : List Char} (other : ∀ more, rest = '=' :: more → False) :
    Stops (· == '=') rest := by
  cases rest with
  | nil => rfl
  | cons first more =>
    show (first == '=') = false
    rw [beq_eq_false_iff_ne]
    rintro rfl
    exact other more rfl

theorem sign?_eq_some {lexeme : Lexeme text} (cut : sign? text = some lexeme) :
    ∃ continues, SignText lexeme.token lexeme.split.front continues ∧
      Stops continues lexeme.split.rest := by
  unfold sign? at cut
  split at cut
  · cases cut
    exact ⟨_, .doubleEqual, stops_noChar _⟩
  · cases cut
    exact ⟨_, .lessEqual, stops_noChar _⟩
  · cases cut
    exact ⟨_, .greaterEqual, stops_noChar _⟩
  · next other =>
    cases cut
    exact ⟨_, .equal, stops_equal other⟩
  · next other =>
    cases cut
    exact ⟨_, .less, stops_equal other⟩
  · next other =>
    cases cut
    exact ⟨_, .greater, stops_equal other⟩
  · cases cut
    exact ⟨_, .opening, stops_noChar _⟩
  · cases cut
    exact ⟨_, .closing, stops_noChar _⟩
  · cases cut

theorem sign?_of_signText {token : Token} {front rest : List Char} {continues : Char → Bool}
    (isSign : SignText token front continues) (stops : Stops continues rest) :
    ∃ lexeme, sign? (front ++ rest) = some lexeme ∧ lexeme.token = token ∧
      lexeme.split.rest = rest := by
  cases isSign with
  | equal | less | greater =>
    cases rest with
    | nil => exact ⟨_, rfl, rfl, rfl⟩
    | cons first more =>
      have other : (first == '=') = false := stops
      rw [beq_eq_false_iff_ne] at other
      refine ⟨single _ _ (first :: more), ?_, rfl, rfl⟩
      simp only [List.cons_append, List.nil_append]
      rw [sign?]
      rintro _ ⟨⟩
      exact other rfl
  | doubleEqual | lessEqual | greaterEqual | opening | closing => exact ⟨_, rfl, rfl, rfl⟩

end Lexeme

/-! ## Tokens -/

/-- A word starts with a character behind the digits and signs of ASCII. -/
theorem startsWord_bounds {char : Char} (starts : Lexeme.startsWord char = true) :
    0x41 ≤ char.toNat ∧ char.toNat < 0x80 := by
  rw [Lexeme.startsWord, Bool.or_eq_true, beq_iff_eq] at starts
  rcases starts with letter | rfl
  · have bounds := toNat_of_isAlpha letter
    omega
  · decide

/-- The texts of a token, with the characters by which each of them could grow. -/
inductive Token.Spelled : Token → List Char → (Char → Bool) → Prop
  /-- A text between two quotes of one kind. -/
  | text {quote : Char} {inside : List Char} (isQuote : quote = '"' ∨ quote = '\'')
      (isInside : Lexeme.Inside quote inside) :
      Spelled (.text (String.ofList (Lexeme.unescape inside))) (quote :: (inside ++ [quote])) noChar
  /-- A numeral of a number. -/
  | number {front : List Char} {numeral : Numeral} (isNumeral : NumeralText front)
      (read : Numeral.read? front = some numeral) :
      Spelled (.number numeral.value) front Lexeme.continuesNumber
  /-- A comparator or a parenthesis. -/
  | sign {token : Token} {front : List Char} {continues : Char → Bool}
      (isSign : SignText token front continues) : Spelled token front continues
  /-- A keyword or a name. -/
  | word {first : Char} {letters : List Char} (starts : Lexeme.startsWord first = true)
      (continues : ∀ char ∈ letters, Lexeme.continuesWord char = true) :
      Spelled (.ofWord (String.ofList (first :: letters))) (first :: letters) Lexeme.continuesWord

/-- A text that does not start with a blank and whose first token is known, with what follows it. -/
def Cuts (text : List Char) (token : Token) (rest : List Char) : Prop :=
  Stops isBlank text ∧
    ∃ lexeme, Lexeme.cut? text = some lexeme ∧ lexeme.token = token ∧ lexeme.split.rest = rest

namespace Lexeme

variable {first : Char}

theorem text?_eq_none (noQuote : ¬(first = '"' ∨ first = '\'')) (rest : List Char) :
    text? (first :: rest) = none := by
  rw [text?, if_neg noQuote]

theorem number?_eq_none (other : ¬StartsNumeral first) (rest : List Char) :
    number? (first :: rest) = none := by
  cases cut : number? (first :: rest) with
  | none => rfl
  | some lexeme =>
    obtain ⟨start, more, front, starts⟩ := (number?_eq_some cut).1.starts
    have whole := lexeme.split.whole
    rw [front, List.cons_append, List.cons.injEq] at whole
    exact absurd (whole.1 ▸ starts) other

theorem sign?_eq_none (other : first ∉ ['=', '<', '>', '(', ')']) (rest : List Char) :
    sign? (first :: rest) = none := by
  cases cut : sign? (first :: rest) with
  | none => rfl
  | some lexeme =>
    obtain ⟨continues, isSign, _⟩ := sign?_eq_some cut
    obtain ⟨start, more, front, starts⟩ := isSign.starts
    have whole := lexeme.split.whole
    rw [front, List.cons_append, List.cons.injEq] at whole
    exact absurd (whole.1 ▸ starts) other

theorem word?_eq_some {text : List Char} {lexeme : Lexeme text} (cut : word? text = some lexeme) :
    lexeme.token.Spelled lexeme.split.front continuesWord ∧
      Stops continuesWord lexeme.split.rest := by
  unfold word? at cut
  split at cut
  · cases cut
  · next first rest =>
    split at cut
    · next starts =>
      cases cut
      exact ⟨.word starts (Split.forall_mem_span rest continuesWord),
        Split.stops_span rest continuesWord⟩
    · cases cut

theorem text?_eq_some {text : List Char} {lexeme : Lexeme text} (cut : text? text = some lexeme) :
    lexeme.token.Spelled lexeme.split.front noChar := by
  unfold text? at cut
  split at cut
  · cases cut
  · split at cut
    · next isQuote =>
      obtain ⟨body, read, rfl⟩ := Option.map_eq_some_iff.mp cut
      exact .text isQuote (inside_of_body? read)
    · cases cut

end Lexeme

/-- A token is cut off with a text that spells it, and what is left does not make it longer. -/
theorem Cuts.spelled {text rest : List Char} {token : Token} (cuts : Cuts text token rest) :
    ∃ front continues, text = front ++ rest ∧ token.Spelled front continues ∧
      Stops continues rest := by
  obtain ⟨_, lexeme, cut, rfl, rfl⟩ := cuts
  refine ⟨lexeme.split.front, ?_⟩
  rw [Lexeme.cut?, Option.or_eq_some_iff] at cut
  rcases cut with isText | ⟨_, cut⟩
  · exact ⟨_, lexeme.split.whole.symm, Lexeme.text?_eq_some isText, stops_noChar _⟩
  rw [Option.or_eq_some_iff] at cut
  rcases cut with isNumber | ⟨_, cut⟩
  · obtain ⟨shape, ends, numeral, read, token⟩ := Lexeme.number?_eq_some isNumber
    refine ⟨_, lexeme.split.whole.symm, ?_, ends⟩
    rw [token]
    exact .number shape read
  rw [Option.or_eq_some_iff] at cut
  rcases cut with isSign | ⟨_, isWord⟩
  · obtain ⟨continues, isSign, stops⟩ := Lexeme.sign?_eq_some isSign
    exact ⟨continues, lexeme.split.whole.symm, .sign isSign, stops⟩
  · obtain ⟨spelled, stops⟩ := Lexeme.word?_eq_some isWord
    exact ⟨_, lexeme.split.whole.symm, spelled, stops⟩

/-- A character of the visible range of ASCII is no blank. -/
theorem isBlank_of_visible {char : Char} (low : 0x20 < char.toNat) (high : char.toNat < 0x80) :
    isBlank char = false := by
  simp only [isBlank, Bool.or_eq_false_iff, Bool.and_eq_false_iff, decide_eq_false_iff_not,
    beq_eq_false_iff_ne]
  omega

theorem otherStarts_of_sign {char : Char} (starts : char ∈ ['=', '<', '>', '(', ')']) :
    ¬(char = '"' ∨ char = '\'') ∧ ¬StartsNumeral char := by
  simp only [List.mem_cons, List.not_mem_nil, or_false] at starts
  unfold StartsNumeral
  rcases starts with rfl | rfl | rfl | rfl | rfl <;> decide

theorem otherStarts_of_word {char : Char} (starts : Lexeme.startsWord char = true) :
    ¬(char = '"' ∨ char = '\'') ∧ ¬StartsNumeral char ∧ char ∉ ['=', '<', '>', '(', ')'] := by
  have bounds := startsWord_bounds starts
  refine ⟨?_, ?_, ?_⟩
  · rintro (rfl | rfl) <;> simp at bounds
  · rintro (rfl | rfl | rfl | digit)
    · simp at bounds
    · simp at bounds
    · simp at bounds
    · have digitBounds := Char.isDigit_iff_toNat.mp digit
      simp only [Char.reduceToNat] at digitBounds
      omega
  · simp only [List.mem_cons, List.not_mem_nil, or_false]
    rintro (rfl | rfl | rfl | rfl | rfl) <;> simp at bounds

namespace Token.Spelled

variable {token : Token} {front rest : List Char} {continues : Char → Bool}

/-- A token starts with a visible character of ASCII. -/
theorem starts (spelled : token.Spelled front continues) :
    ∃ first more, front = first :: more ∧ 0x20 < first.toNat ∧ first.toNat < 0x80 := by
  cases spelled with
  | text isQuote => 
    refine ⟨_, _, rfl, ?_⟩
    rcases isQuote with rfl | rfl <;> decide
  | number isNumeral =>
    obtain ⟨first, more, shape, starts⟩ := isNumeral.starts
    refine ⟨first, more, shape, ?_⟩
    rcases starts with rfl | rfl | rfl | digit
    · decide
    · decide
    · decide
    · have bounds := Char.isDigit_iff_toNat.mp digit
      simp only [Char.reduceToNat] at bounds
      omega
  | sign isSign => cases isSign <;> exact ⟨_, _, rfl, by decide⟩
  | word starts =>
    have bounds := startsWord_bounds starts
    exact ⟨_, _, rfl, by omega, bounds.2⟩

/-- A text of a token is cut off whole where what follows does not make it longer. -/
theorem cuts (spelled : token.Spelled front continues) (stops : Stops continues rest) :
    Cuts (front ++ rest) token rest := by
  constructor
  · obtain ⟨first, more, rfl, low, high⟩ := spelled.starts
    exact isBlank_of_visible low high
  · cases spelled with
    | @text quote inside isQuote isInside =>
      have notBackslash : '\\' ≠ quote := by
        rcases isQuote with rfl | rfl <;> decide
      have apart : quote :: (inside ++ [quote]) ++ rest = quote :: (inside ++ quote :: rest) := by
        simp
      rw [apart, Lexeme.cut?, Lexeme.text?, if_pos isQuote,
        Lexeme.body?_of_inside isInside notBackslash, Option.map_some, Option.some_or]
      exact ⟨_, rfl, rfl, rfl⟩
    | number isNumeral read =>
      obtain ⟨first, more, shape, starts⟩ := isNumeral.starts
      obtain ⟨lexeme, cut, isToken, behind⟩ := Lexeme.number?_of_numeralText isNumeral read stops
      have noText : Lexeme.text? (front ++ rest) = none := by
        rw [shape]
        exact Lexeme.text?_eq_none starts.noQuote _
      refine ⟨lexeme, ?_, isToken, behind⟩
      rw [Lexeme.cut?, noText, cut, Option.none_or, Option.some_or]
    | sign isSign =>
      obtain ⟨first, more, shape, starts⟩ := isSign.starts
      obtain ⟨lexeme, cut, isToken, behind⟩ := Lexeme.sign?_of_signText isSign stops
      obtain ⟨noQuote, noNumeral⟩ := otherStarts_of_sign starts
      have noText : Lexeme.text? (front ++ rest) = none := by
        rw [shape]
        exact Lexeme.text?_eq_none noQuote _
      have noNumber : Lexeme.number? (front ++ rest) = none := by
        rw [shape]
        exact Lexeme.number?_eq_none noNumeral _
      refine ⟨lexeme, ?_, isToken, behind⟩
      rw [Lexeme.cut?, noText, noNumber, cut, Option.none_or, Option.none_or, Option.some_or]
    | @word first letters starts continues =>
      obtain ⟨noQuote, noNumeral, noSign⟩ := otherStarts_of_word starts
      rw [List.cons_append, Lexeme.cut?, Lexeme.text?_eq_none noQuote,
        Lexeme.number?_eq_none noNumeral, Lexeme.sign?_eq_none noSign, Option.none_or,
        Option.none_or, Option.none_or, Lexeme.word?, if_pos starts]
      refine ⟨_, rfl, ?_, ?_⟩
      · simp only [Split.span_eq continues stops, Split.push]
      · simp only [Split.span_eq continues stops, Split.push]

end Token.Spelled

end Lamplight
