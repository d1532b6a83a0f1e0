import Mathlib.Data.String.Basic
import Lamplight.Proofs.Condition.Faults

/-!
# Positions in the source of a condition

Offsets are counted while a source is cut into tokens, from the characters that are left.  Here they
are compared with the positions of the source as a string: the offset of every token is the place of
its first character, and a position in an error is such an offset or the place of a character that
starts no token.
-/

namespace Lamplight

open Text

namespace Text

theorem utf8Length_eq_utf8Len (text : List Char) : utf8Length text = String.utf8Len text := by
  induction text with
  | nil => rfl
  | cons char rest ih => rw [utf8Length_cons, ih, String.utf8Len_cons, Nat.add_comm]

theorem utf8Length_toList (source : String) : utf8Length source.toList = source.utf8ByteSize := by
  rw [utf8Length_eq_utf8Len, String.utf8Len_toList]

theorem utf8Length_pos {text : List Char} (nonempty : text ≠ []) : 0 < utf8Length text := by
  cases text with
  | nil => exact absurd rfl nonempty
  | cons char rest => exact Nat.add_pos_left char.utf8Size_pos _

end Text

/-- At an offset of a source a character starts that is not blank. -/
structure VisibleAt (source : String) (offset : Nat) : Prop where
  below : offset < source.utf8ByteSize
  boundary : String.Pos.Raw.IsValid source ⟨offset⟩
  visible : isBlank (String.Pos.Raw.get source ⟨offset⟩) = false

/-- A character that is not blank stands behind the bytes of what is in front of it. -/
theorem VisibleAt.of_toList {source : String} {front back : List Char} {char : Char}
    (whole : source.toList = front ++ char :: back) (visible : isBlank char = false) :
    VisibleAt source (utf8Length front) := by
  have same : source = String.ofList front ++ String.ofList (char :: back) := by
    rw [← String.ofList_append, ← whole, String.ofList_toList]
  refine ⟨?_, ?_, ?_⟩
  · rw [← utf8Length_toList, whole, utf8Length_append]
    exact Nat.lt_add_of_pos_right (utf8Length_pos (List.cons_ne_nil char back))
  · rw [String.Pos.Raw.isValid_iff_exists_append]
    refine ⟨_, _, same, ?_⟩
    rw [String.rawEndPos_ofList, utf8Length_eq_utf8Len]
  · rw [same, ← String.ofList_append, utf8Length_eq_utf8Len, String.get_of_valid]
    exact visible

/-! ## Lexemes and the blanks between them -/

/-- The characters of a token with the blanks in front of them. -/
structure Piece where
  gap : List Char
  lexeme : List Char
  token : Token

namespace Piece

/-- The part of the source that a piece is. -/
def chars (piece : Piece) : List Char := piece.gap ++ piece.lexeme

/-- Blanks and then the characters of the token, which by themselves are the token, too. -/
structure Sound (piece : Piece) : Prop where
  blank : Blanks piece.gap
  nonempty : piece.lexeme ≠ []
  alone : tokenize (String.ofList piece.lexeme) = .ok [⟨0, piece.token⟩]

/-- The tokens of pieces that stand behind one another, from a byte offset on. -/
def located : Nat → List Piece → List Token.Located
  | _, [] => []
  | offset, piece :: rest =>
    ⟨offset + utf8Length piece.gap, piece.token⟩ ::
      located (offset + utf8Length piece.chars) rest

end Piece

theorem Token.Spelled.ne_nil {token : Token} {front : List Char} {continues : Char → Bool}
    (spelled : token.Spelled front continues) : front ≠ [] := by
  obtain ⟨first, more, rfl, _⟩ := spelled.starts
  exact List.cons_ne_nil first more

/-- The characters of a token are the token wherever they stand. -/
theorem Token.Spelled.tokenize {token : Token} {front : List Char} {continues : Char → Bool}
    (spelled : token.Spelled front continues) :
    tokenize (String.ofList front) = .ok [⟨0, token⟩] := by
  have ending : Stops continues [] := rfl
  have covers : Covers 0 ([] ++ (front ++ [])) [⟨0, token⟩] :=
    .token (List.forall_mem_nil _) spelled ending (.blanks (List.forall_mem_nil _))
  rw [List.nil_append, List.append_nil] at covers
  rw [Lamplight.tokenize, String.toList_ofList]
  exact covers.tokensFrom

namespace Covers

variable {offset : Nat} {text : List Char} {tokens : List Token.Located}

/-- A covered text is made of pieces, and blanks behind them. -/
theorem pieces (covers : Covers offset text tokens) :
    ∃ pieces tail, text = pieces.flatMap Piece.chars ++ tail ∧ Blanks tail ∧
      (∀ piece ∈ pieces, piece.Sound) ∧ tokens = Piece.located offset pieces := by
  induction covers with
  | @blanks _ gap blank => exact ⟨[], gap, rfl, blank, List.forall_mem_nil _, rfl⟩
  | @token offset gap front _ token _ _ blank spelled _ _ ih =>
    obtain ⟨pieces, tail, rfl, blankTail, sound, rfl⟩ := ih
    refine ⟨⟨gap, front, token⟩ :: pieces, tail, ?_, blankTail, ?_, ?_⟩
    · simp [Piece.chars]
    · exact List.forall_mem_cons.mpr ⟨⟨blank, spelled.ne_nil, spelled.tokenize⟩, sound⟩
    · simp [Piece.located, Piece.chars, Nat.add_assoc]

/-- Every token stands at a character that is not blank. -/
theorem visible (covers : Covers offset text tokens) :
    ∀ token ∈ tokens, ∃ front char back, text = front ++ char :: back ∧ isBlank char = false ∧
      token.offset = offset + utf8Length front := by
  induction covers with
  | blanks => exact List.forall_mem_nil _
  | @token offset gap lexeme rest token _ _ _ spelled _ _ ih =>
    rw [List.forall_mem_cons]
    constructor
    · obtain ⟨first, more, rfl, low, high⟩ := spelled.starts
      exact ⟨gap, first, more ++ rest, rfl, isBlank_of_visible low high, rfl⟩
    · intro other member
      obtain ⟨front, char, back, rfl, visible, place⟩ := ih other member
      refine ⟨gap ++ (lexeme ++ front), char, back, by simp, visible, ?_⟩
      rw [place, utf8Length_append, utf8Length_append, ← Nat.add_assoc, ← Nat.add_assoc]

/-- Tokens stand in their order. -/
theorem increasing (covers : Covers offset text tokens) :
    tokens.Pairwise fun left right => left.offset < right.offset := by
  induction covers with
  | blanks => exact .nil
  | @token offset gap lexeme _ _ _ _ _ spelled _ others ih =>
    refine .cons ?_ ih
    intro other member
    obtain ⟨front, _, _, _, _, place⟩ := others.visible other member
    have positive := utf8Length_pos spelled.ne_nil
    simp only [place]
    omega

end Covers

namespace Condition

/-- The tokens of a source are made of all its characters that are not blank, and their offsets are
the places of these characters.  A source without tokens has them up to a place where none starts;
and an error that has a position has one of these places. -/
theorem tokens_cover_source (source : String) :
    (∀ tokens, tokenize source = .ok tokens →
      (∃ pieces tail, source.toList = pieces.flatMap Piece.chars ++ tail ∧ Blanks tail ∧
        (∀ piece ∈ pieces, piece.Sound) ∧ tokens = Piece.located 0 pieces) ∧
      (tokens.Pairwise fun left right => left.offset < right.offset) ∧
      ∀ token ∈ tokens, VisibleAt source token.offset) ∧
    (∀ error, tokenize source = .error error →
      ∃ position problem, error = .malformed position problem ∧ VisibleAt source position ∧
        ∃ front back, source = front ++ back ∧ front.utf8ByteSize = position ∧
          ∃ tokens, tokenize front = .ok tokens) ∧
    ∀ position problem, parse source = .error (.malformed position problem) →
      tokenize source = .error (.malformed position problem) ∨
      ∃ tokens, tokenize source = .ok tokens ∧ ∃ token ∈ tokens, token.offset = position := by
  refine ⟨?_, ?_, ?_⟩
  · intro tokens read
    have covers := tokensFrom_eq_ok_iff.mp read
    refine ⟨covers.pieces, covers.increasing, ?_⟩
    intro token member
    obtain ⟨front, char, back, whole, visible, place⟩ := covers.visible token member
    rw [place, Nat.zero_add]
    exact .of_toList whole visible
  · intro error failed
    obtain ⟨front, char, rest, tokens, whole, visible, covers, rfl⟩ :=
      covers_of_tokensFrom_eq_error failed
    refine ⟨_, _, rfl, ?_, String.ofList front, String.ofList (char :: rest), ?_, ?_, tokens, ?_⟩
    · rw [Nat.zero_add]
      exact .of_toList whole visible
    · rw [← String.ofList_append, ← whole, String.ofList_toList]
    · rw [Nat.zero_add, ← utf8Length_toList, String.toList_ofList]
    · rw [tokenize, String.toList_ofList]
      exact covers.tokensFrom
  · intro position problem failed
    cases cut : tokenize source with
    | error error =>
      rw [parse, cut] at failed
      cases failed
      exact .inl rfl
    | ok tokens =>
      right
      refine ⟨tokens, rfl, ?_⟩
      rw [parse_of_tokenize cut] at failed
      rcases settled_of_ofTokens failed with ⟨⟨⟩⟩ | ⟨before, last, rest, rfl, _, points⟩
      exact ⟨last, by simp, points position problem rfl⟩

/-- A token behind blanks of two and three bytes, and a character of three bytes that starts
none. -/
theorem tokens_cover_source_of_wide_characters :
    VisibleAt "weather\u00a0=\u2003\"☁\" OR light<5" 13 ∧
      VisibleAt "time BETWEEN\u00a06 ⁂ AND" 16 := by
  have cut : tokenize "weather\u00a0=\u2003\"☁\" OR light<5" =
      .ok [⟨0, .identifier "weather"⟩, ⟨9, .comparator .equal⟩, ⟨13, .text "☁"⟩, ⟨19, .or⟩,
        ⟨22, .identifier "light"⟩, ⟨27, .comparator .less⟩, ⟨28, .number 5⟩] := by
    decide +kernel
  have failed : tokenize "time BETWEEN\u00a06 ⁂ AND" =
      .error (.malformed 16 (.unexpectedCharacter '⁂')) := by
    decide +kernel
  refine ⟨((tokens_cover_source _).1 _ cut).2.2 ⟨13, .text "☁"⟩ (by simp), ?_⟩
  obtain ⟨_, _, ⟨⟩, visible, _⟩ := (tokens_cover_source _).2.1 _ failed
  exact visible

end Condition

end Lamplight
