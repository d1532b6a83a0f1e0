import Lamplight.Proofs.Condition.Covering

/-!
# Errors are found from left to right

When a parser fails, the tokens up to some place are to blame: with anything else behind this place
it fails in the same way, and if the error has a position, it is that place.  Only the end of the
input is different, since there more tokens could follow.  `LeftToRight` says so for one parser.  It
goes along with `Local`, which says the same of what is read; both are proved from the inside out,
as the grammar is.
-/

namespace Lamplight.Condition

open Text

/-- If an error has a position, it is the one of this token. -/
def PointsAt (error : ConditionError) (token : Token.Located) : Prop :=
  ∀ position problem, error = .malformed position problem → token.offset = position

/-- Every input that starts like this one, up to a token the error points at, fails. -/
def Settled (fails : List Token.Located → Prop) (error : ConditionError)
    (input : List Token.Located) : Prop :=
  ∃ before last rest, input = before ++ last :: rest ∧
    (∀ other, fails (before ++ last :: other)) ∧ PointsAt error last

section

variable {α β : Type} {parser : TokenParser α} {error : ConditionError}
  {input : List Token.Located}

/-- A token settles the error of a parser that fails in one way whatever follows it. -/
theorem Settled.at {fault : ConditionError} (before : List Token.Located) (last : Token.Located)
    {rest : List Token.Located} (always : ∀ other, parser (before ++ last :: other) = .error fault)
    (points : PointsAt fault last) (failed : parser (before ++ last :: rest) = .error error) :
    Settled (parser · = .error error) error (before ++ last :: rest) := by
  cases (always rest).symm.trans failed
  exact ⟨before, last, rest, rfl, always, points⟩

/-- What settles the error of a part settles it for the whole. -/
theorem Settled.behind {fails wider : List Token.Located → Prop} (front : List Token.Located)
    (settled : Settled fails error input) (passes : ∀ other, fails other → wider (front ++ other)) :
    Settled wider error (front ++ input) := by
  obtain ⟨before, last, rest, rfl, always, points⟩ := settled
  refine ⟨front ++ before, last, rest, by simp, ?_, points⟩
  intro other
  rw [List.append_assoc]
  exact passes _ (always other)

theorem Settled.imp {fails wider : List Token.Located → Prop} (settled : Settled fails error input)
    (passes : ∀ other, fails other → wider other) : Settled wider error input :=
  settled.behind [] passes

/-- Behind a settled error anything may follow. -/
theorem Settled.append {fails : List Token.Located → Prop} (settled : Settled fails error input)
    (more : List Token.Located) : fails (input ++ more) := by
  obtain ⟨before, last, rest, rfl, always, _⟩ := settled
  rw [List.append_assoc, List.cons_append]
  exact always (rest ++ more)

/-- Every error of a parser is settled, except for an end of the input. -/
def LeftToRight (parser : TokenParser α) : Prop :=
  ∀ input error, parser input = .error error →
    error = .truncated ∨ Settled (parser · = .error error) error input

/-- What a parser reads depends on the tokens that it takes and on the one behind them. -/
def Local (parser : TokenParser α) : Prop :=
  ∀ input value rest, Reads parser input value rest →
    ∃ used, input = used ++ rest ∧
      ∀ other, other.head? = rest.head? → Reads parser (used ++ other) value other

/-- A parser that recognises a phrase looks one token ahead, if it stops by no more than that. -/
theorem Recognizes.isLocal {depth : Nat} {phrase : α → Phrase}
    {stops : List Token.Located → Prop} (recognizes : Recognizes parser depth phrase stops)
    (looksAhead : ∀ left right, left.head? = right.head? → stops left → stops right) :
    Local parser := by
  intro input value rest reads
  obtain ⟨used, rfl, derived, nested, ends⟩ := (recognizes _ _ _).mp reads
  refine ⟨used, rfl, ?_⟩
  intro other same
  exact (recognizes _ _ _).mpr ⟨used, rfl, derived, nested, looksAhead _ _ same.symm ends⟩

theorem stops_of_head? (joint : Joint) (left right : List Token.Located)
    (same : left.head? = right.head?) (stops : joint.Stops left) : joint.Stops right := by
  cases joint <;> simpa only [Joint.Stops, same] using stops

/-- Mapping the values changes no error. -/
theorem LeftToRight.map (leftToRight : LeftToRight parser) (image : α → β) :
    LeftToRight fun input => (parser input).map (·.map image) := by
  have same : ∀ input error,
      (parser input).map (·.map image) = .error error ↔ parser input = .error error := by
    intro input error
    cases parser input <;> simp [Except.map]
  intro input error failed
  simp only [same]
  exact leftToRight input error ((same input error).mp failed)

end

/-! ## Comparisons -/

section Comparisons

variable {found : Token.Located} {reading : Reading} {error : ConditionError}

theorem pointsAt_of_readingOf (failed : readingOf found = .error error) : PointsAt error found := by
  unfold readingOf at failed
  split at failed
  · split at failed <;> cases failed
    rintro _ _ ⟨⟩
  · cases failed
    rintro _ _ ⟨⟩
    rfl

theorem pointsAt_of_literalOf (failed : literalOf found = .error error) : PointsAt error found := by
  unfold literalOf at failed
  split at failed <;> cases failed
  · rintro _ _ ⟨⟩
  · rintro _ _ ⟨⟩
    rfl

theorem pointsAt_of_boundOf (failed : boundOf reading found = .error error) :
    PointsAt error found := by
  unfold boundOf at failed
  split at failed <;> cases failed
  · rintro _ _ ⟨⟩
  · rintro _ _ ⟨⟩
    rfl

/-- Sides that do not go together have no position. -/
theorem pointsAt_of_compared {comparator : Comparator} {literal : Literal}
    (failed : compared reading comparator literal = .error error) : PointsAt error found := by
  unfold compared at failed
  split at failed
  · cases failed
  · cases failed
    rintro _ _ ⟨⟩
  · cases failed
    rintro _ _ ⟨⟩
  · split at failed <;> cases failed
    rintro _ _ ⟨⟩

theorem pointsAt_of_ranged {low high : Float} (failed : ranged reading low high = .error error) :
    PointsAt error found := by
  unfold ranged at failed
  split at failed <;> cases failed
  rintro _ _ ⟨⟩

theorem pointsAt_unexpected (wanted : Expectation) (found : Token.Located) :
    PointsAt (unexpected wanted found) found := by
  rintro _ _ ⟨⟩
  rfl

/-- Where a range fails. -/
theorem leftToRight_range (reading : Reading) : LeftToRight (range reading) := by
  intro input error failed
  rcases input with _ | ⟨first, tail⟩
  · cases failed
    exact .inl rfl
  cases isLow : boundOf reading first with
  | error fault =>
    refine .inr (.at [] first ?_ (pointsAt_of_boundOf isLow) failed)
    intro other
    simp [range, anyToken, Found.head, isLow, bind, Except.bind]
  | ok low =>
    rcases tail with _ | ⟨separator, tail⟩
    · simp [range, anyToken, Found.head, isLow, bind, Except.bind] at failed
      exact .inl failed.symm
    by_cases isAnd : separator.token = .and
    · rcases tail with _ | ⟨second, tail⟩
      · simp [range, anyToken, Found.head, isLow, isAnd, bind, Except.bind] at failed
        exact .inl failed.symm
      cases isHigh : boundOf reading second with
      | error fault =>
        refine .inr (.at [first, separator] second ?_ (pointsAt_of_boundOf isHigh) failed)
        intro other
        simp [range, anyToken, Found.head, isLow, isAnd, isHigh, bind, Except.bind]
      | ok high =>
        cases fits : ranged reading low high with
        | error fault =>
          refine .inr (.at [first, separator] second ?_ (pointsAt_of_ranged fits) failed)
          intro other
          simp [range, anyToken, Found.head, isLow, isAnd, isHigh, fits, bind, Except.bind]
        | ok condition =>
          simp [range, anyToken, Found.head, isLow, isAnd, isHigh, fits, bind, Except.bind, pure,
            Except.pure] at failed
    · refine .inr (.at [first] separator ?_ (pointsAt_unexpected .rangeAnd separator) failed)
      intro other
      simp [range, anyToken, Found.head, isLow, isAnd, bind, Except.bind, throw, throwThe,
        MonadExceptOf.throw]

section Operations

variable {left operation : Token.Located} {tail : List Token.Located}

/-- The bounds of a range fail as they do without the two tokens in front. -/
theorem settled_bounds (isReading : readingOf left = .ok reading)
    (isRange : operation.token = .between)
    (failed : comparisonAt (left :: operation :: tail) = .error error) :
    error = .truncated ∨
      Settled (comparisonAt · = .error error) error (left :: operation :: tail) := by
  have passes : ∀ other, comparisonAt (left :: operation :: other) = .error error ↔
      range reading other = .error error := by
    intro other
    simp only [comparisonAt, anyToken, Found.head, isReading, isRange, bind, Except.bind]
    cases range reading other <;> simp [pure, Except.pure]
  refine (leftToRight_range reading tail error ((passes tail).mp failed)).imp_right ?_
  intro settled
  exact settled.behind [left, operation] fun other => (passes other).mpr

/-- The right side of a comparison is wrong, or it does not go with the left one. -/
theorem settled_literal (isReading : readingOf left = .ok reading) {relation : Comparator}
    (isRelation : operation.token = .comparator relation)
    (failed : comparisonAt (left :: operation :: tail) = .error error) :
    error = .truncated ∨
      Settled (comparisonAt · = .error error) error (left :: operation :: tail) := by
  rcases tail with _ | ⟨right, tail⟩
  · simp [comparisonAt, anyToken, Found.head, isReading, isRelation, bind, Except.bind] at failed
    exact .inl failed.symm
  cases isLiteral : literalOf right with
  | error fault =>
    refine .inr (.at [left, operation] right ?_ (pointsAt_of_literalOf isLiteral) failed)
    intro other
    simp [comparisonAt, anyToken, Found.head, isReading, isRelation, isLiteral, bind, Except.bind]
  | ok literal =>
    cases fits : compared reading relation literal with
    | error fault =>
      refine .inr (.at [left, operation] right ?_ (pointsAt_of_compared fits) failed)
      intro other
      simp [comparisonAt, anyToken, Found.head, isReading, isRelation, isLiteral, fits, bind,
        Except.bind]
    | ok condition =>
      simp [comparisonAt, anyToken, Found.head, isReading, isRelation, isLiteral, fits, bind,
        Except.bind, pure, Except.pure] at failed

end Operations

/-- Where a comparison fails. -/
theorem leftToRight_comparisonAt : LeftToRight comparisonAt := by
  intro input error failed
  rcases input with _ | ⟨left, tail⟩
  · cases failed
    exact .inl rfl
  cases isReading : readingOf left with
  | error fault =>
    refine .inr (.at [] left ?_ (pointsAt_of_readingOf isReading) failed)
    intro other
    simp [comparisonAt, anyToken, Found.head, isReading, bind, Except.bind]
  | ok reading =>
    rcases tail with _ | ⟨operation, tail⟩
    · simp [comparisonAt, anyToken, Found.head, isReading, bind, Except.bind] at failed
      exact .inl failed.symm
    by_cases isRange : operation.token = .between
    · exact settled_bounds isReading isRange failed
    by_cases isRelation : ∃ relation, operation.token = .comparator relation
    · obtain ⟨relation, isRelation⟩ := isRelation
      exact settled_literal isReading isRelation failed
    · refine .inr (.at [left] operation ?_
        (pointsAt_unexpected (.comparator reading) operation) failed)
      intro other
      simp only [List.cons_append, List.nil_append, comparisonAt, anyToken, Found.head, isReading,
        bind, Except.bind]
      split
      · next between => exact absurd between isRange
      · next relation comparator => exact absurd ⟨relation, comparator⟩ isRelation
      · rfl

end Comparisons

/-! ## Groups and joined operands -/

section Groups

variable {parser : TokenParser Condition} {inner : Option (TokenParser Condition)}
  {input rest : List Token.Located} {tree : Condition} {offset : Nat} {error : ConditionError}

/-- Behind the inside of a group stands nothing, the end of the group, or a token that is wrong
there. -/
theorem primary_unclosed {close : Token.Located} (reads : Reads parser input tree (close :: rest))
    (unclosed : close.token ≠ .closing) :
    primary (some parser) (⟨offset, .opening⟩ :: input) = .error (unexpected .closing close) := by
  obtain ⟨group, readGroup, rfl, behind⟩ := reads
  have readClose : ∃ found, anyToken group.rest = .ok found ∧ found.value = close := by
    rw [behind]
    exact ⟨_, rfl, rfl⟩
  obtain ⟨found, readClose, rfl⟩ := readClose
  simp [primary, readGroup, readClose, unclosed, bind, Except.bind, throw, throwThe,
    MonadExceptOf.throw]

theorem primary_unended (reads : Reads parser input tree []) :
    primary (some parser) (⟨offset, .opening⟩ :: input) = .error .truncated := by
  obtain ⟨group, readGroup, rfl, behind⟩ := reads
  have noClose : anyToken group.rest = .error .truncated := by
    rw [behind]
    rfl
  simp [primary, readGroup, noClose, bind, Except.bind]

/-- Where a group fails. -/
theorem settled_group (leftToRight : LeftToRight parser) (isLocal : Local parser)
    (failed : primary (some parser) (⟨offset, .opening⟩ :: input) = .error error) :
    error = .truncated ∨
      Settled (primary (some parser) · = .error error) error (⟨offset, .opening⟩ :: input) := by
  cases readGroup : parser input with
  | error fault =>
    cases (primary_failed readGroup).symm.trans failed
    refine (leftToRight input _ readGroup).imp_right ?_
    intro settled
    exact settled.behind [⟨offset, .opening⟩] fun _ => primary_failed
  | ok group =>
    have reads : Reads parser input group.value group.rest := ⟨group, readGroup, rfl, rfl⟩
    cases behind : group.rest with
    | nil =>
      rw [behind] at reads
      cases (primary_unended reads).symm.trans failed
      exact .inl rfl
    | cons close others =>
      rw [behind] at reads
      by_cases closes : close.token = .closing
      · have closed : close = ⟨close.offset, .closing⟩ := by rw [← closes]
        rw [closed] at reads
        obtain ⟨_, done, _⟩ := reads_group_iff.mpr ⟨close.offset, reads⟩
        cases done.symm.trans failed
      · -- the inside is read up to this token, whatever stands behind it
        obtain ⟨used, rfl, again⟩ := isLocal _ _ _ reads
        refine .inr (.at (⟨offset, .opening⟩ :: used) close ?_ (pointsAt_unexpected .closing close)
          failed)
        intro other
        exact primary_unclosed (again (close :: other) rfl) closes

/-- Where a group or a comparison fails. -/
theorem leftToRight_primary
    (inside : ∀ parser, inner = some parser → LeftToRight parser ∧ Local parser) :
    LeftToRight (primary inner) := by
  intro input error failed
  by_cases isGroup : ∃ offset more, input = ⟨offset, .opening⟩ :: more
  · obtain ⟨offset, tail, rfl⟩ := isGroup
    cases inner with
    | none =>
      refine .inr (.at [] ⟨offset, .opening⟩ (fun _ => rfl) ?_ failed)
      rintro _ _ ⟨⟩
      rfl
    | some parser =>
      obtain ⟨leftToRight, isLocal⟩ := inside parser rfl
      exact settled_group leftToRight isLocal failed
  · have noGroup : ∀ offset more, input ≠ ⟨offset, .opening⟩ :: more := by
      rintro offset more rfl
      exact isGroup ⟨offset, more, rfl⟩
    rw [primary_eq_comparisonAt noGroup] at failed
    refine (leftToRight_comparisonAt _ _ failed).imp_right ?_
    rintro ⟨before, last, rest, rfl, always, points⟩
    refine ⟨before, last, rest, rfl, ?_, points⟩
    intro other
    rw [primary_eq_comparisonAt]
    · exact always other
    · -- the first token is the same whatever follows
      intro offset more equal
      cases before with
      | nil =>
        cases equal
        exact noGroup offset rest rfl
      | cons first others =>
        cases equal
        exact noGroup offset _ rfl

/-- Where operands with a joining word between them fail. -/
theorem leftToRight_chain {isSeparator : Token.Located → Bool} {item : TokenParser Condition}
    (leftToRight : LeftToRight item) (isLocal : Local item) :
    LeftToRight (chain isSeparator item) := by
  intro input error failed
  -- by induction on the input: every operand takes at least one token
  induction size : input.length using Nat.strongRecOn generalizing input with
  | ind size ih =>
    subst size
    rcases chain_error_cases failed with failedItem |
      ⟨value, symbol, middle, reads, separates, failedMore⟩
    · refine (leftToRight input error failedItem).imp_right ?_
      intro settled
      exact settled.imp fun _ => chain_error_first
    · have shorter : middle.length < input.length :=
        Nat.lt_trans (Nat.lt_succ_self _) reads.length_lt
      refine (ih _ shorter middle failedMore rfl).imp_right ?_
      obtain ⟨used, rfl, again⟩ := isLocal _ _ _ reads
      intro settled
      have passes : ∀ other, chain isSeparator item other = .error error →
          chain isSeparator item (used ++ [symbol] ++ other) = .error error := by
        intro other failedOther
        rw [List.append_assoc]
        exact chain_error_more (again (symbol :: other) rfl) separates failedOther
      have whole : Settled (chain isSeparator item · = .error error) error
          (used ++ [symbol] ++ middle) := settled.behind _ passes
      rwa [List.append_assoc] at whole

/-- Where a condition fails whose groups may stand in one another. -/
theorem leftToRight_disjunction {depth : Nat} (encloses : Encloses inner depth)
    (inside : ∀ parser, inner = some parser → LeftToRight parser ∧ Local parser) :
    LeftToRight (disjunction inner) := by
  have isPrimary : Local (primary inner) :=
    (recognizes_primary encloses).isLocal fun _ _ _ => id
  have isConjunction : Local (conjunction inner) :=
    (recognizes_conjunction encloses).isLocal (stops_of_head? .and)
  have conjunctions : LeftToRight (conjunction inner) :=
    (leftToRight_chain (leftToRight_primary inside) isPrimary).map _
  exact (leftToRight_chain conjunctions isConjunction).map _

end Groups

/-- The parser for a depth finds its errors from left to right. -/
theorem leftToRight_withinDepth (depth : Nat) : LeftToRight (withinDepth depth) := by
  induction depth with
  | zero => exact @leftToRight_disjunction none 0 rfl (by rintro _ ⟨⟩)
  | succ depth ih =>
    have encloses : Encloses (some (withinDepth depth)) (depth + 1) :=
      ⟨withinDepth depth, rfl, recognizes_withinDepth depth⟩
    refine leftToRight_disjunction encloses ?_
    rintro _ ⟨⟩
    exact ⟨ih, (recognizes_withinDepth depth).isLocal (stops_of_head? .or)⟩

/-- So does the parser of a whole list of tokens. -/
theorem settled_of_ofTokens {tokens : List Token.Located} {error : ConditionError}
    (failed : ofTokens tokens = .error error) :
    error = .truncated ∨ Settled (ofTokens · = .error error) error tokens := by
  cases read : withinDepth maxDepth tokens with
  | error fault =>
    cases (ofTokens_failed read).symm.trans failed
    refine (leftToRight_withinDepth maxDepth tokens _ read).imp_right ?_
    intro settled
    exact settled.imp fun _ => ofTokens_failed
  | ok found =>
    have reads : Reads (withinDepth maxDepth) tokens found.value found.rest :=
      ⟨found, read, rfl, rfl⟩
    have trails : ∀ other extra rest,
        Reads (withinDepth maxDepth) other found.value (extra :: rest) →
        ofTokens other = .error (.malformed extra.offset (.trailing extra.token)) := by
      rintro other extra rest ⟨again, readAgain, _, behind⟩
      simp [ofTokens, readAgain, behind, bind, Except.bind, throw, throwThe, MonadExceptOf.throw]
    cases behind : found.rest with
    | nil => simp [ofTokens, read, behind, bind, Except.bind, pure, Except.pure] at failed
    | cons extra rest =>
      rw [behind] at reads
      obtain ⟨used, rfl, again⟩ :=
        (recognizes_withinDepth maxDepth).isLocal (stops_of_head? .or) _ _ _ reads
      cases (trails _ _ _ reads).symm.trans failed
      refine .inr ⟨used, extra, rest, rfl, ?_, ?_⟩
      · intro other
        exact trails _ _ _ (again (extra :: other) rfl)
      · rintro _ _ ⟨⟩
        rfl

/-! ## Sources that go on -/

/-- The tokens of a source that goes on behind a blank start with those of its front. -/
theorem tokens_of_continued {front back : String} {tokens whole : List Token.Located}
    (cut : tokenize front = .ok tokens) (cutWhole : tokenize (front ++ " " ++ back) = .ok whole) :
    ∃ others, whole = tokens ++ others := by
  have covers := tokensFrom_eq_ok_iff.mp cut
  have joined := covers.tokensFrom_append (growsToken_blank back.toList)
  have text : (front ++ " " ++ back).toList = front.toList ++ ' ' :: back.toList := by simp
  rw [tokenize, text, joined] at cutWhole
  cases behind : tokensFrom (0 + utf8Length front.toList) (' ' :: back.toList) with
  | error error =>
    rw [behind] at cutWhole
    cases cutWhole
  | ok others =>
    rw [behind] at cutWhole
    cases cutWhole
    exact ⟨others, rfl⟩

/-- Errors are found from left to right: an error in a source that ends too early is its early end,
and any other error stays the same, position and all, however the source goes on behind a blank.  So
the front of a condition is a condition itself, or nothing is wrong with it but that it ends. -/
theorem error_stands_however_continued {front back : String} {tokens whole : List Token.Located}
    (cut : tokenize front = .ok tokens) (cutWhole : tokenize (front ++ " " ++ back) = .ok whole) :
    (∀ error, error ≠ .truncated → parse front = .error error →
      parse (front ++ " " ++ back) = .error error) ∧
    ∀ condition, parse (front ++ " " ++ back) = .ok condition →
      (∃ shorter, parse front = .ok shorter) ∨ parse front = .error .truncated := by
  obtain ⟨others, rfl⟩ := tokens_of_continued cut cutWhole
  rw [parse_of_tokenize cut, parse_of_tokenize cutWhole]
  have stands : ∀ error, error ≠ .truncated → ofTokens tokens = .error error →
      ofTokens (tokens ++ others) = .error error := by
    intro error known failed
    rcases settled_of_ofTokens failed with truncated | settled
    · exact absurd truncated known
    · exact settled.append others
  refine ⟨stands, ?_⟩
  intro condition read
  cases result : ofTokens tokens with
  | ok shorter => exact .inl ⟨shorter, rfl⟩
  | error error =>
    right
    by_contra known
    have failed := stands error (fun truncated => known (truncated ▸ rfl)) result
    cases failed.symm.trans read

/-- A group that is not closed where it has to be, and one whose end is missing. -/
theorem error_stands_behind_open_group :
    parse ("(time BETWEEN 6 AND 18 light" ++ " " ++ "< 5) OR") =
      .error (.malformed 23 (.unexpected .closing (.identifier "light"))) ∧
    ((∃ shorter, parse "(time BETWEEN 6 AND 18 OR" = .ok shorter) ∨
      parse "(time BETWEEN 6 AND 18 OR" = .error .truncated) := by
  have cut : tokenize "(time BETWEEN 6 AND 18 light" =
      .ok [⟨0, .opening⟩, ⟨1, .identifier "time"⟩, ⟨6, .between⟩, ⟨14, .number 6⟩, ⟨16, .and⟩,
        ⟨20, .number 18⟩, ⟨23, .identifier "light"⟩] := by
    decide +kernel
  have cutWhole : tokenize ("(time BETWEEN 6 AND 18 light" ++ " " ++ "< 5) OR") =
      .ok [⟨0, .opening⟩, ⟨1, .identifier "time"⟩, ⟨6, .between⟩, ⟨14, .number 6⟩, ⟨16, .and⟩,
        ⟨20, .number 18⟩, ⟨23, .identifier "light"⟩, ⟨29, .comparator .less⟩, ⟨31, .number 5⟩,
        ⟨32, .closing⟩, ⟨34, .or⟩] := by
    decide +kernel
  have failed : parse "(time BETWEEN 6 AND 18 light" =
      .error (.malformed 23 (.unexpected .closing (.identifier "light"))) := by
    rw [parse_of_tokenize cut]
    cbv
  have cutOpen : tokenize "(time BETWEEN 6 AND 18 OR" =
      .ok [⟨0, .opening⟩, ⟨1, .identifier "time"⟩, ⟨6, .between⟩, ⟨14, .number 6⟩, ⟨16, .and⟩,
        ⟨20, .number 18⟩, ⟨23, .or⟩] := by
    decide +kernel
  have cutClosed : tokenize ("(time BETWEEN 6 AND 18 OR" ++ " " ++ "light < 5)") =
      .ok [⟨0, .opening⟩, ⟨1, .identifier "time"⟩, ⟨6, .between⟩, ⟨14, .number 6⟩, ⟨16, .and⟩,
        ⟨20, .number 18⟩, ⟨23, .or⟩, ⟨26, .identifier "light"⟩, ⟨32, .comparator .less⟩,
        ⟨34, .number 5⟩, ⟨35, .closing⟩] := by
    decide +kernel
  have read : parse ("(time BETWEEN 6 AND 18 OR" ++ " " ++ "light < 5)") =
      .ok (.any [.between .time 6 18, .comparison .light .less (.number 5)]) := by
    rw [parse_of_tokenize cutClosed]
    cbv
  exact ⟨(error_stands_however_continued cut cutWhole).1 _ (by simp) failed,
    (error_stands_however_continued cutOpen cutClosed).2 _ read⟩

end Lamplight.Condition
