import Lamplight.Proofs.Condition.Lexicon
import Lamplight.Proofs.Condition.Parsing
import Lamplight.Proofs.Condition.Spelling

/-!
# Reading the source form of a condition

The tokens that are cut from the source form of a condition are `Condition.tokens`.  A text is cut
from the left, and what follows a token matters only after a number: the text behind it must not
look like more of the number.  Blanks, parentheses and the end of the source do not.
-/

namespace Lamplight

open Text

/-! ## Tokens at the start of a text -/

/-- A text that has these tokens, wherever in the source it stands. -/
def Lexes (text : List Char) (tokens : List Token) : Prop :=
  ∀ offset, ∃ located, tokensFrom offset text = .ok located ∧ Token.bare located = tokens

/-- The tokens of a text: none in blanks, or a first one and those behind it. -/
theorem tokensFrom_eq (offset : Nat) (text : List Char) :
    tokensFrom offset text =
      match text.dropWhile isBlank with
      | [] => .ok []
      | char :: rest =>
        match Lexeme.cut? (char :: rest) with
        | none =>
          .error (.malformed (offset + utf8Length (text.takeWhile isBlank)) (.ofText char rest))
        | some lexeme =>
          (tokensFrom
            (offset + utf8Length (text.takeWhile isBlank) + utf8Length lexeme.split.front)
            lexeme.split.rest).map
              (⟨offset + utf8Length (text.takeWhile isBlank), lexeme.token⟩ :: ·) := by
  rw [tokensFrom]
  simp only [Split.span]
  split
  · next ending => simp only [ending]
  · next char rest remaining =>
    simp only [remaining]
    cases Lexeme.cut? (char :: rest) with
    | none => rfl
    | some lexeme =>
      simp only
      cases tokensFrom
        (offset + utf8Length (text.takeWhile isBlank) + utf8Length lexeme.split.front)
        lexeme.split.rest with
      | error error => rfl
      | ok located => rfl

/-- A blank in front of a text only moves its tokens. -/
theorem tokensFrom_blank {char : Char} (isBlank : isBlank char = true) (offset : Nat)
    (text : List Char) :
    tokensFrom offset (char :: text) = tokensFrom (offset + char.utf8Size) text := by
  rw [tokensFrom_eq, tokensFrom_eq, List.dropWhile_cons_of_pos isBlank,
    List.takeWhile_cons_of_pos isBlank, utf8Length_cons, ← Nat.add_assoc]

/-- The first token of a text stands in front of the tokens of the rest, which start where its
characters end. -/
theorem tokensFrom_cuts {text rest : List Char} {token : Token} (cuts : Cuts text token rest)
    (offset : Nat) :
    ∃ front, text = front ++ rest ∧ tokensFrom offset text =
      (tokensFrom (offset + utf8Length front) rest).map (⟨offset, token⟩ :: ·) := by
  obtain ⟨stops, lexeme, cut, rfl, rfl⟩ := cuts
  refine ⟨lexeme.split.front, lexeme.split.whole.symm, ?_⟩
  cases text with
  | nil => cases cut
  | cons char more =>
    have other : isBlank char = false := stops
    rw [tokensFrom_eq]
    simp only [List.dropWhile_cons, List.takeWhile_cons, other, Bool.false_eq_true, if_false, cut,
      utf8Length_nil, Nat.add_zero]

namespace Lexes

variable {text rest : List Char} {token : Token} {tokens : List Token}

theorem nil : Lexes [] [] := by
  intro offset
  exact ⟨[], by rw [tokensFrom_eq]; rfl, rfl⟩

/-- A blank in front of a text changes no token. -/
theorem blank {char : Char} (isBlank : isBlank char = true) (lexes : Lexes text tokens) :
    Lexes (char :: text) tokens := by
  intro offset
  rw [tokensFrom_blank isBlank]
  exact lexes (offset + char.utf8Size)

/-- A first token is followed by the tokens of the rest. -/
theorem cons (cuts : Cuts text token rest) (lexes : Lexes rest tokens) :
    Lexes text (token :: tokens) := by
  intro offset
  obtain ⟨front, _, first⟩ := tokensFrom_cuts cuts offset
  obtain ⟨located, read, spelled⟩ := lexes (offset + utf8Length front)
  refine ⟨⟨offset, token⟩ :: located, ?_, congrArg (token :: ·) spelled⟩
  rw [first, read]
  rfl

end Lexes

namespace Cuts

theorem opening (rest : List Char) : Cuts ('(' :: rest) .opening rest :=
  ⟨rfl, _, rfl, rfl, rfl⟩

theorem closing (rest : List Char) : Cuts (')' :: rest) .closing rest :=
  ⟨rfl, _, rfl, rfl, rfl⟩

theorem comparator (comparator : Comparator) (rest : List Char) :
    Cuts (comparator.sign.toList ++ ' ' :: rest) (.comparator comparator) (' ' :: rest) := by
  cases comparator <;> exact ⟨rfl, _, rfl, rfl, rfl⟩

theorem reading (reading : Reading) (rest : List Char) :
    Cuts (reading.name.toList ++ ' ' :: rest) (.identifier reading.name) (' ' :: rest) := by
  cases reading <;> exact ⟨rfl, _, rfl, rfl, rfl⟩

theorem between (rest : List Char) :
    Cuts ("BETWEEN".toList ++ ' ' :: rest) .between (' ' :: rest) :=
  ⟨rfl, _, rfl, rfl, rfl⟩

theorem and (rest : List Char) : Cuts ("AND".toList ++ ' ' :: rest) .and (' ' :: rest) :=
  ⟨rfl, _, rfl, rfl, rfl⟩

theorem or (rest : List Char) : Cuts ("OR".toList ++ ' ' :: rest) .or (' ' :: rest) :=
  ⟨rfl, _, rfl, rfl, rfl⟩

end Cuts

/-! ## Numbers -/

open Decimal

/-- A sign or none with digits around a point is a numeral. -/
theorem numeralText_signed (negative : Bool) {whole fraction : List Char} (nonempty : whole ≠ [])
    (wholeDigits : AllDigits whole) (fractionDigits : AllDigits fraction) :
    NumeralText (signed negative (positional whole fraction)) := by
  have signed : OptionalSign (if negative = true then ['-'] else []) := by
    cases negative with
    | true => exact .inr (.inl rfl)
    | false => exact .inl rfl
  have text := NumeralText.intro signed wholeDigits fractionDigits (.inl nonempty) .none
  rwa [List.append_nil] at text

/-- The plain text of a finite number spells it. -/
theorem Token.Spelled.of_plain {number : Float} (finite : number.isFinite = true) :
    Token.Spelled (.number number) (plain.chars number) Lexeme.continuesNumber := by
  obtain ⟨negative, whole, fraction, text, nonempty, wholeDigits, fractionDigits, rfl⟩ :=
    plain_chars_eq_signed finite
  rw [text]
  exact .number (numeralText_signed negative nonempty wholeDigits fractionDigits)
    (read?_positional negative nonempty wholeDigits fractionDigits)

theorem Cuts.number {number : Float} (finite : number.isFinite = true) {rest : List Char}
    (ends : EndsNumber rest) : Cuts (plain.chars number ++ rest) (.number number) rest :=
  (Token.Spelled.of_plain finite).cuts ends

/-! ## Quoted texts -/

/-- A character between quotes stands for itself, or behind a backslash for another one. -/
theorem escape_cases (char : Char) :
    (∃ mark, Literal.escape char = ['\\', mark] ∧ mark ≠ '\n' ∧
      ∀ rest, Lexeme.unescape ('\\' :: mark :: rest) = char :: Lexeme.unescape rest) ∨
    (Literal.escape char = [char] ∧ char ≠ '"' ∧ char ≠ '\\' ∧ char ≠ '\n') := by
  by_cases backslash : char = '\\'
  · subst backslash
    exact .inl ⟨'\\', rfl, by decide, fun rest => by rw [Lexeme.unescape]⟩
  by_cases quote : char = '"'
  · subst quote
    exact .inl ⟨'"', rfl, by decide, fun rest => by rw [Lexeme.unescape]⟩
  by_cases lineBreak : char = '\n'
  · subst lineBreak
    exact .inl ⟨'n', rfl, by decide, fun rest => by rw [Lexeme.unescape]⟩
  by_cases tab : char = '\t'
  · subst tab
    exact .inl ⟨'t', rfl, by decide, fun rest => by rw [Lexeme.unescape]⟩
  · refine .inr ⟨?_, quote, backslash, lineBreak⟩
    rw [Literal.escape]
    · exact backslash
    · exact quote
    · exact lineBreak
    · exact tab

theorem unescape_cons {char : Char} (other : char ≠ '\\') (rest : List Char) :
    Lexeme.unescape (char :: rest) = char :: Lexeme.unescape rest := by
  rw [Lexeme.unescape]
  all_goals
    intros
    exact other ‹_›

/-- Escaping a text and reading it between quotes gives the text. -/
theorem unescape_escape (text : List Char) :
    Lexeme.unescape (text.flatMap Literal.escape) = text := by
  induction text with
  | nil => rfl
  | cons char rest ih =>
    rw [List.flatMap_cons]
    rcases escape_cases char with ⟨mark, escaped, _, unescaped⟩ | ⟨escaped, _, backslash, _⟩
    · rw [escaped, List.cons_append, List.singleton_append, unescaped, ih]
    · rw [escaped, List.singleton_append, unescape_cons backslash, ih]

/-- No escaped text ends before the quote behind it. -/
theorem inside_escape (text : List Char) : Lexeme.Inside '"' (text.flatMap Literal.escape) := by
  induction text with
  | nil => exact .nil
  | cons char rest ih =>
    rw [List.flatMap_cons]
    rcases escape_cases char with
      ⟨mark, escaped, noBreak, _⟩ | ⟨escaped, quote, backslash, lineBreak⟩
    · rw [escaped]
      exact .escaped noBreak ih
    · rw [escaped]
      exact .plain quote backslash lineBreak ih

theorem Cuts.text (value : String) (rest : List Char) :
    Cuts ((Literal.text value).chars ++ rest) (.text value) rest := by
  have spelled := Token.Spelled.text (.inl rfl) (inside_escape value.toList)
  rw [unescape_escape, String.ofList_toList] at spelled
  have cuts := spelled.cuts (stops_noChar rest)
  simpa [Literal.chars] using cuts

/-! ## The source form of a condition -/

namespace Condition

/-- A value of a comparison, before a text that has some tokens. -/
theorem lexes_literal (literal : Literal)
    (finite : ∀ value, literal = .number value → value.isFinite = true) {rest : List Char}
    {tokens : List Token} (ends : EndsNumber rest) (lexes : Lexes rest tokens) :
    Lexes (literal.chars ++ rest) (literal.token :: tokens) := by
  cases literal with
  | number value => exact .cons (.number (finite value rfl) ends) lexes
  | text value => exact .cons (.text value rest) lexes

/-- Operands in parentheses where they are needed. -/
theorem lexes_enclose {part : Condition}
    (each : ∀ rest tokens, EndsNumber rest → Lexes rest tokens →
      Lexes (part.chars ++ rest) (part.tokens ++ tokens))
    (needed : Bool) {rest : List Char} {tokens : List Token} (ends : EndsNumber rest)
    (lexes : Lexes rest tokens) :
    Lexes (enclose needed part.chars ++ rest) (Token.enclose needed part.tokens ++ tokens) := by
  cases needed with
  | false => exact each rest tokens ends lexes
  | true =>
    have inside := each _ _ (endsNumber_closing rest) (.cons (.closing rest) lexes)
    have whole := Lexes.cons (.opening _) inside
    simpa [enclose, Token.enclose] using whole

/-- The joining word between two operands. -/
theorem lexes_separator (joint : Joint) {rest : List Char} {tokens : List Token}
    (lexes : Lexes rest tokens) :
    Lexes (joint.separator ++ rest) (joint.token :: tokens) := by
  cases joint with
  | and => exact .blank rfl (.cons (.and rest) (.blank rfl lexes))
  | or => exact .blank rfl (.cons (.or rest) (.blank rfl lexes))

/-- Operands and the joining words between them, when each operand has its tokens. -/
theorem lexes_operands {joint : Joint} {parts : List Condition}
    (each : ∀ part ∈ parts, ∀ rest tokens, EndsNumber rest → Lexes rest tokens →
      Lexes (part.chars ++ rest) (part.tokens ++ tokens))
    {rest : List Char} {tokens : List Token} (ends : EndsNumber rest) (lexes : Lexes rest tokens) :
    Lexes (joint.chars parts ++ rest) (operandTokens joint parts ++ tokens) := by
  induction parts with
  | nil => cases joint <;> exact lexes
  | cons part others ih =>
    rw [List.forall_mem_cons] at each
    cases others with
    | nil =>
      rw [Joint.chars_singleton, operandTokens]
      exact lexes_enclose each.1 (joint.encloses part) ends lexes
    | cons next others =>
      have more := List.cons_ne_nil next others
      have behind := lexes_separator joint (ih each.2)
      have stops : EndsNumber (joint.separator ++ (joint.chars (next :: others) ++ rest)) := by
        cases joint <;> exact endsNumber_blank _
      rw [Joint.chars_cons joint part more, operandTokens_cons part more]
      simp only [List.append_assoc, List.cons_append]
      exact lexes_enclose each.1 (joint.encloses part) stops behind

/-- Reading the source form of a condition gives its tokens, before a text that has some. -/
theorem lexes_chars (condition : Condition)
    (finite : ∀ number ∈ condition.numbers, number.isFinite = true) {rest : List Char}
    {tokens : List Token} (ends : EndsNumber rest) (lexes : Lexes rest tokens) :
    Lexes (condition.chars ++ rest) (condition.tokens ++ tokens) := by
  induction condition using joint_induction generalizing rest tokens with
  | comparison reading comparator literal =>
    have each : ∀ value, literal = .number value → value.isFinite = true := by
      intro value equal
      subst equal
      exact finite value (List.mem_singleton_self value)
    have value := lexes_literal literal each ends lexes
    have whole := Lexes.cons (.reading reading _) (.blank rfl
      (.cons (.comparator comparator _) (.blank rfl value)))
    simpa [Condition.chars, Condition.tokens] using whole
  | between reading low high =>
    have lowFinite := finite low List.mem_cons_self
    have highFinite := finite high (List.mem_cons_of_mem low (List.mem_singleton_self high))
    have upper := Lexes.cons (.number highFinite ends) lexes
    have bounds := Lexes.cons (.number lowFinite (endsNumber_blank _))
      (.blank rfl (.cons (.and _) (.blank rfl upper)))
    have whole := Lexes.cons (.reading reading _) (.blank rfl
      (.cons (.between _) (.blank rfl bounds)))
    simpa [Condition.chars, Condition.tokens] using whole
  | tree joint parts ih =>
    rw [Joint.chars_tree, tokens_tree]
    rw [numbers_tree] at finite
    refine lexes_operands (fun part member _ _ => ih part member ?_) ends lexes
    intro number inside
    exact finite number (mem_numbersOf.mpr ⟨part, member, inside⟩)

end Condition

end Lamplight
