import Lamplight.Proofs.Condition.Lexing

/-!
# Tokens cover their source

A text has tokens just when it is made of them: blanks, the characters of the first token, blanks,
the characters of the second, and so on up to blanks at the end.  `Covers` says so with the byte
offset of every token.  What follows a covered text may be cut into tokens for itself, unless it
starts with a character that the last token could take; and a text that has no tokens is covered up
to the character that starts none.
-/

namespace Lamplight

open Text

/-- Characters that are all blank. -/
def Blanks (gap : List Char) : Prop := ∀ char ∈ gap, isBlank char = true

/-- A text that starts at a byte offset is made of some tokens and the blanks around them. -/
inductive Covers : Nat → List Char → List Token.Located → Prop
  | blanks {offset : Nat} {gap : List Char} (blank : Blanks gap) : Covers offset gap []
  | token {offset : Nat} {gap front rest : List Char} {token : Token} {continues : Char → Bool}
      {tokens : List Token.Located} (blank : Blanks gap) (spelled : token.Spelled front continues)
      (stops : Stops continues rest)
      (others : Covers (offset + utf8Length gap + utf8Length front) rest tokens) :
      Covers offset (gap ++ (front ++ rest)) (⟨offset + utf8Length gap, token⟩ :: tokens)

/-! ## Covering and cutting -/

/-- Blanks in front of a text only move its tokens. -/
theorem tokensFrom_blanks {gap : List Char} (blank : Blanks gap) (offset : Nat)
    (text : List Char) :
    tokensFrom offset (gap ++ text) = tokensFrom (offset + utf8Length gap) text := by
  induction gap generalizing offset with
  | nil => rfl
  | cons char rest ih =>
    rw [Blanks, List.forall_mem_cons] at blank
    rw [List.cons_append, tokensFrom_blank blank.1, ih blank.2, utf8Length_cons, Nat.add_assoc]

/-- The characters of a token that cannot grow are cut off first. -/
theorem tokensFrom_spelled {token : Token} {front rest : List Char} {continues : Char → Bool}
    (spelled : token.Spelled front continues) (stops : Stops continues rest) (offset : Nat) :
    tokensFrom offset (front ++ rest) =
      (tokensFrom (offset + utf8Length front) rest).map (⟨offset, token⟩ :: ·) := by
  obtain ⟨cut, whole, first⟩ := tokensFrom_cuts (spelled.cuts stops) offset
  rw [List.append_cancel_right whole]
  rw [List.append_cancel_right whole] at first
  exact first

theorem Covers.tokensFrom {offset : Nat} {text : List Char} {tokens : List Token.Located}
    (covers : Covers offset text tokens) : tokensFrom offset text = .ok tokens := by
  induction covers with
  | @blanks offset gap blank =>
    rw [← List.append_nil gap, tokensFrom_blanks blank, tokensFrom_eq]
    rfl
  | token blank spelled stops _ ih =>
    rw [tokensFrom_blanks blank, tokensFrom_spelled spelled stops, ih]
    rfl

/-- The blanks in front of a text and what stands behind them. -/
theorem gap_cases (text : List Char) :
    Blanks text ∨ ∃ gap char rest, text = gap ++ char :: rest ∧ Blanks gap ∧
      isBlank char = false := by
  have whole := (Split.span isBlank text).whole
  have blank := Split.forall_mem_span text isBlank
  have stops := Split.stops_span text isBlank
  cases behind : (Split.span isBlank text).rest with
  | nil =>
    rw [behind, List.append_nil] at whole
    rw [whole] at blank
    exact .inl blank
  | cons char rest =>
    rw [behind] at whole stops
    exact .inr ⟨_, char, rest, whole.symm, blank, stops⟩

/-- What stands behind blanks is no token, or a first token and a rest. -/
theorem tokensFrom_visible {char : Char} (visible : isBlank char = false) (offset : Nat)
    (rest : List Char) :
    tokensFrom offset (char :: rest) = .error (.malformed offset (.ofText char rest)) ∨
    ∃ (token : Token) (front : List Char) (continues : Char → Bool) (others : List Char),
      char :: rest = front ++ others ∧ token.Spelled front continues ∧
        Stops continues others := by
  cases cut : Lexeme.cut? (char :: rest) with
  | none =>
    left
    rw [tokensFrom_eq]
    simp only [List.dropWhile_cons, List.takeWhile_cons, visible, Bool.false_eq_true, if_false, cut,
      utf8Length_nil, Nat.add_zero]
  | some lexeme =>
    right
    have cuts : Cuts (char :: rest) lexeme.token lexeme.split.rest :=
      ⟨visible, lexeme, cut, rfl, rfl⟩
    obtain ⟨front, continues, whole, spelled, stops⟩ := cuts.spelled
    exact ⟨_, front, continues, _, whole, spelled, stops⟩

theorem Token.Spelled.length_lt {token : Token} {front : List Char} {continues : Char → Bool}
    (spelled : token.Spelled front continues) (gap rest : List Char) :
    rest.length < (gap ++ (front ++ rest)).length := by
  obtain ⟨first, more, rfl, _⟩ := spelled.starts
  simp only [List.length_append, List.length_cons]
  omega

/-- A text is covered by its tokens, or by those in front of a character that starts none. -/
theorem covers_cases (offset : Nat) (text : List Char) :
    (∃ tokens, Covers offset text tokens) ∨
    ∃ front char rest tokens, text = front ++ char :: rest ∧ isBlank char = false ∧
      Covers offset front tokens ∧ Lamplight.tokensFrom offset text =
        .error (.malformed (offset + utf8Length front) (.ofText char rest)) := by
  -- by induction on the length: every token has a character
  induction size : text.length using Nat.strongRecOn generalizing offset text with
  | ind size ih =>
    subst size
    rcases gap_cases text with blank | ⟨gap, char, rest, rfl, blank, visible⟩
    · exact .inl ⟨[], .blanks blank⟩
    rcases tokensFrom_visible visible (offset + utf8Length gap) rest with failed |
      ⟨token, front, continues, others, whole, spelled, stops⟩
    · refine .inr ⟨gap, char, rest, [], rfl, visible, .blanks blank, ?_⟩
      rw [tokensFrom_blanks blank, failed]
    · rw [whole]
      rw [whole] at ih
      rcases ih _ (spelled.length_lt gap others) (offset + utf8Length gap + utf8Length front) others
        rfl with ⟨tokens, covers⟩ | ⟨before, bad, behind, tokens, rfl, visible, covers, failed⟩
      · exact .inl ⟨_, .token blank spelled stops covers⟩
      · refine .inr ⟨gap ++ (front ++ before), bad, behind, _, by simp, visible,
          .token blank spelled stops.of_append covers, ?_⟩
        rw [tokensFrom_blanks blank, tokensFrom_spelled spelled stops, failed, utf8Length_append,
          utf8Length_append, ← Nat.add_assoc, ← Nat.add_assoc]
        rfl

/-- A text has some tokens just when it is made of them. -/
theorem tokensFrom_eq_ok_iff {offset : Nat} {text : List Char} {tokens : List Token.Located} :
    tokensFrom offset text = .ok tokens ↔ Covers offset text tokens := by
  constructor
  · intro read
    rcases covers_cases offset text with ⟨found, covers⟩ | ⟨_, _, _, _, _, _, _, failed⟩
    · cases covers.tokensFrom.symm.trans read
      exact covers
    · cases failed.symm.trans read
  · exact Covers.tokensFrom

/-- A text without tokens has them up to a character that starts none, and the error points at this
character. -/
theorem covers_of_tokensFrom_eq_error {offset : Nat} {text : List Char} {error : ConditionError}
    (failed : tokensFrom offset text = .error error) :
    ∃ front char rest tokens, text = front ++ char :: rest ∧ isBlank char = false ∧
      Covers offset front tokens ∧
      error = .malformed (offset + utf8Length front) (.ofText char rest) := by
  rcases covers_cases offset text with ⟨found, covers⟩ |
    ⟨front, char, rest, tokens, whole, visible, covers, failedThere⟩
  · cases covers.tokensFrom.symm.trans failed
  · cases failedThere.symm.trans failed
    exact ⟨front, char, rest, tokens, whole, visible, covers, rfl⟩

/-! ## Joining texts -/

/-- Whether a character can make some token longer. -/
def growsToken (char : Char) : Bool := Lexeme.continuesNumber char || char == '='

theorem growsToken_cons {char : Char} (other : growsToken char = false) (rest : List Char) :
    Stops growsToken (char :: rest) := by
  rw [Stops, List.head?_cons, Option.any_some]
  exact other

theorem growsToken_blank (rest : List Char) : Stops growsToken (' ' :: rest) :=
  growsToken_cons (by decide +kernel) rest

theorem growsToken_closing (rest : List Char) : Stops growsToken (')' :: rest) :=
  growsToken_cons (by decide +kernel) rest

theorem Token.Spelled.growsToken_of_continues {token : Token} {front : List Char}
    {continues : Char → Bool} (spelled : token.Spelled front continues) (char : Char)
    (grows : continues char = true) : growsToken char = true := by
  rw [growsToken, Bool.or_eq_true]
  cases spelled with
  | text => cases grows
  | number => exact .inl grows
  | sign isSign =>
    cases isSign with
    | equal | less | greater => exact .inr grows
    | doubleEqual | lessEqual | greaterEqual | opening | closing => cases grows
  | word => exact .inl (continuesNumber_of_continuesWord char grows)

/-- Behind a covered text the tokens are cut anew, unless they would have begun before. -/
theorem Covers.tokensFrom_append {offset : Nat} {text more : List Char}
    {tokens : List Token.Located} (covers : Covers offset text tokens)
    (apart : Stops growsToken more) :
    Lamplight.tokensFrom offset (text ++ more) =
      (Lamplight.tokensFrom (offset + utf8Length text) more).map (tokens ++ ·) := by
  induction covers with
  | @blanks offset gap blank =>
    rw [tokensFrom_blanks blank]
    cases Lamplight.tokensFrom (offset + utf8Length gap) more <;> rfl
  | @token offset gap front rest token continues tokens blank spelled stops _ ih =>
    have joined : Stops continues (rest ++ more) :=
      stops.append (apart.mono spelled.growsToken_of_continues)
    rw [List.append_assoc, List.append_assoc, tokensFrom_blanks blank,
      tokensFrom_spelled spelled joined, ih, utf8Length_append, utf8Length_append, ← Nat.add_assoc,
      ← Nat.add_assoc]
    cases Lamplight.tokensFrom
      (offset + utf8Length gap + utf8Length front + utf8Length rest) more <;> rfl

/-- A covered text has the same tokens wherever in a source it stands. -/
theorem Covers.lexes {offset : Nat} {text : List Char} {tokens : List Token.Located}
    (covers : Covers offset text tokens) : Lexes text (Token.bare tokens) := by
  induction covers with
  | blanks blank =>
    intro offset
    exact ⟨[], (Covers.blanks blank).tokensFrom, rfl⟩
  | token blank spelled stops _ ih =>
    intro offset
    obtain ⟨located, read, bare⟩ := ih (offset + utf8Length _ + utf8Length _)
    refine ⟨_, (Covers.token blank spelled stops (tokensFrom_eq_ok_iff.mp read)).tokensFrom, ?_⟩
    exact congrArg (_ :: ·) bare

namespace Lexes

variable {text more : List Char} {tokens others : List Token}

theorem of_tokenize {source : String} {located : List Token.Located}
    (read : tokenize source = .ok located) : Lexes source.toList (Token.bare located) :=
  (tokensFrom_eq_ok_iff.mp read).lexes

/-- The tokens of two texts that are joined where no token grows into the second. -/
theorem append (inFront : Lexes text tokens) (inMore : Lexes more others)
    (apart : Stops growsToken more) : Lexes (text ++ more) (tokens ++ others) := by
  intro offset
  obtain ⟨located, read, rfl⟩ := inFront offset
  obtain ⟨behind, readBehind, rfl⟩ := inMore (offset + utf8Length text)
  refine ⟨located ++ behind, ?_, List.map_append⟩
  rw [(tokensFrom_eq_ok_iff.mp read).tokensFrom_append apart, readBehind]
  rfl

/-- A source with known tokens. -/
theorem tokenize {source : String} (lexes : Lexes source.toList tokens) :
    ∃ located, Lamplight.tokenize source = .ok located ∧ Token.bare located = tokens :=
  lexes 0

end Lexes

end Lamplight
