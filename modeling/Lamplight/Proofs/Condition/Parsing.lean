import Lamplight.Proofs.Condition.Grammar
import Lamplight.Proofs.Scanning

/-!
# The parser accepts its grammar

Every parser of the condition language reads exactly the stretches of tokens that its phrase
derives, as long as groups are nested no deeper than it allows and no joining word follows that
would make the phrase longer.  `Recognizes` says so for one parser; it is proved from the inside
out, first for comparisons, then for one level of groups, and by induction for every depth.
-/

namespace Lamplight

open Token (NestedWithin)

/-- The tokens without the places where they stand. -/
abbrev Token.bare (located : List Token.Located) : List Token :=
  located.map Token.Located.token

theorem Token.bare_eq_cons_iff {located : List Token.Located} {token : Token}
    {tokens : List Token} :
    Token.bare located = token :: tokens ↔
      ∃ offset more, located = ⟨offset, token⟩ :: more ∧ Token.bare more = tokens := by
  rw [List.map_eq_cons_iff]
  constructor
  · rintro ⟨⟨offset, _⟩, more, rfl, rfl, spelled⟩
    exact ⟨offset, more, rfl, spelled⟩
  · rintro ⟨offset, more, rfl, spelled⟩
    exact ⟨⟨offset, token⟩, more, rfl, rfl, spelled⟩

namespace Condition

/-! ## Comparisons -/

theorem eq_cons_of_anyToken {input : List Token.Located}
    {found : Found Token.Located Token.Located input} (result : anyToken input = .ok found) :
    input = found.value :: found.rest := by
  cases input with
  | nil => cases result
  | cons token rest =>
      cases result
      rfl

theorem eq_name_of_ofName? {name : String} {reading : Reading}
    (result : Reading.ofName? name = some reading) : name = reading.name := by
  unfold Reading.ofName? at result
  split at result
  · next equal =>
    cases result
    exact equal
  · split at result
    · next equal =>
      cases result
      exact equal
    · split at result
      · next equal =>
        cases result
        exact equal
      · cases result

theorem token_of_readingOf {found : Token.Located} {reading : Reading}
    (result : readingOf found = .ok reading) : found.token = .identifier reading.name := by
  unfold readingOf at result
  split at result
  · next name isName =>
    split at result
    · next known =>
      cases result
      rw [isName, eq_name_of_ofName? known]
    · cases result
  · cases result

theorem token_of_literalOf {found : Token.Located} {literal : Literal}
    (result : literalOf found = .ok literal) : found.token = literal.token := by
  unfold literalOf at result
  split at result
  · next isNumber =>
    cases result
    exact isNumber
  · next isText =>
    cases result
    exact isText
  · cases result
  · cases result

theorem token_of_boundOf {reading : Reading} {found : Token.Located} {value : Float}
    (result : boundOf reading found = .ok value) : found.token = .number value := by
  unfold boundOf at result
  split at result
  · next isNumber =>
    cases result
    exact isNumber
  · cases result
  · cases result

/-- A comparison that is accepted has sides that go together. -/
theorem compares_of_compared {reading : Reading} {comparator : Comparator} {literal : Literal}
    {tree : Condition} (result : compared reading comparator literal = .ok tree) :
    Compares tree [.identifier reading.name, .comparator comparator, literal.token] := by
  cases literal with
  | number value =>
      cases reading with
      | time =>
          cases result
          exact .number rfl comparator value
      | light =>
          cases result
          exact .number rfl comparator value
      | weather => cases result
  | text value =>
      cases reading with
      | time => cases result
      | light => cases result
      | weather =>
          simp only [compared, Reading.isNumeric] at result
          split at result
          · next isEqual =>
            cases result
            rw [isEqual]
            exact .weather value
          · cases result

/-- The bounds of a range are two numbers with `AND` between them, and its reading has them. -/
theorem of_range {reading : Reading} {input : List Token.Located}
    {found : Found Token.Located Condition input} (result : range reading input = .ok found) :
    ∃ low high bounds, input = bounds ++ found.rest ∧
      Token.bare bounds = [.number low, .and, .number high] ∧
      reading.isNumeric = true ∧ found.value = .between reading low high := by
  obtain ⟨first, readFirst, result⟩ := bind_eq_ok_iff.mp result
  obtain ⟨low, isLow, result⟩ := bind_eq_ok_iff.mp result
  obtain ⟨separator, readSeparator, result⟩ := bind_eq_ok_iff.mp result
  dsimp only at result
  split at result
  · cases result
  · next isAnd =>
    obtain ⟨second, readSecond, result⟩ := bind_eq_ok_iff.mp result
    obtain ⟨high, isHigh, result⟩ := bind_eq_ok_iff.mp result
    obtain ⟨condition, isRange, result⟩ := bind_eq_ok_iff.mp result
    cases result
    rcases input with _ | ⟨first, _ | ⟨separator, _ | ⟨second, rest⟩⟩⟩
    · cases readFirst
    · cases readFirst
      cases readSeparator
    · cases readFirst
      cases readSeparator
      cases readSecond
    · cases readFirst
      cases readSeparator
      cases readSecond
      have lowToken := token_of_boundOf isLow
      have highToken := token_of_boundOf isHigh
      have andToken := Decidable.not_not.mp isAnd
      unfold ranged at isRange
      split at isRange
      · next numeric =>
        cases isRange
        refine ⟨low, high, [first, separator, second], rfl, ?_, numeric, rfl⟩
        simp only [Found.head] at lowToken andToken highToken
        simp [lowToken, andToken, highToken]
      · cases isRange

/-- What is read as a comparison is one. -/
theorem compares_of_reads {input rest : List Token.Located} {tree : Condition}
    (reads : Reads comparisonAt input tree rest) :
    ∃ used, input = used ++ rest ∧ Compares tree (Token.bare used) := by
  obtain ⟨found, result, rfl, rfl⟩ := reads
  obtain ⟨left, readLeft, result⟩ := bind_eq_ok_iff.mp result
  obtain ⟨reading, isReading, result⟩ := bind_eq_ok_iff.mp result
  obtain ⟨operation, readOperation, result⟩ := bind_eq_ok_iff.mp result
  rcases input with _ | ⟨left, _ | ⟨operation, input⟩⟩
  · cases readLeft
  · cases readLeft
    cases readOperation
  · cases readLeft
    cases readOperation
    have leftToken := token_of_readingOf isReading
    simp only [Found.head] at leftToken result
    split at result
    · next isRange =>
      obtain ⟨bounds, readBounds, result⟩ := bind_eq_ok_iff.mp result
      obtain ⟨low, high, between, whole, spelled, numeric, value⟩ := of_range readBounds
      cases result
      refine ⟨left :: operation :: between, ?_, ?_⟩
      · exact congrArg (left :: operation :: ·) whole
      · simp only [Token.bare, List.map_cons, leftToken, isRange, spelled, Found.after, value]
        exact .range numeric low high
    · next relation isComparator =>
      obtain ⟨right, readRight, result⟩ := bind_eq_ok_iff.mp result
      obtain ⟨literal, isLiteral, result⟩ := bind_eq_ok_iff.mp result
      obtain ⟨condition, isCompared, result⟩ := bind_eq_ok_iff.mp result
      cases result
      cases input with
      | nil => cases readRight
      | cons right input =>
          cases readRight
          have rightToken := token_of_literalOf isLiteral
          simp only [Found.head] at rightToken
          refine ⟨[left, operation, right], rfl, ?_⟩
          simp only [Token.bare, List.map_cons, List.map_nil, leftToken, isComparator,
            rightToken]
          exact compares_of_compared isCompared
    · cases result

/-- A comparison is read wherever one stands, whatever follows it. -/
theorem reads_of_compares {used : List Token.Located} {tree : Condition}
    (compares : Compares tree (Token.bare used)) (rest : List Token.Located) :
    Reads comparisonAt (used ++ rest) tree rest := by
  generalize spelled : Token.bare used = tokens at compares
  cases compares with
  | range numeric low high =>
      simp only [Token.bare_eq_cons_iff, List.map_eq_nil_iff] at spelled
      obtain ⟨_, _, rfl, _, _, rfl, _, _, rfl, _, _, rfl, _, _, rfl, rfl⟩ := spelled
      simp [Reads, comparisonAt, anyToken, readingOf, range, boundOf, ranged, numeric, bind,
        Except.bind, pure, Except.pure, Found.head, Found.after, Found.map]
  | @number reading numeric comparator value =>
      have fits : compared reading comparator (.number value) =
          .ok (.comparison reading comparator (.number value)) := by
        simp [compared, numeric]
      simp only [Token.bare_eq_cons_iff, List.map_eq_nil_iff] at spelled
      obtain ⟨_, _, rfl, _, _, rfl, _, _, rfl, rfl⟩ := spelled
      simp [Reads, comparisonAt, anyToken, readingOf, literalOf, fits, bind,
        Except.bind, pure, Except.pure, Found.head, Found.after, Found.map]
  | weather value =>
      simp only [Token.bare_eq_cons_iff, List.map_eq_nil_iff] at spelled
      obtain ⟨_, _, rfl, _, _, rfl, _, _, rfl, rfl⟩ := spelled
      simp [Reads, comparisonAt, anyToken, readingOf, literalOf, compared, Reading.isNumeric,
        bind, Except.bind, pure, Except.pure, Found.head, Found.after, Found.map]

end Condition

/-! ## Groups and joined operands -/

/-- No word follows that would join a phrase of this kind with more. -/
def Joint.Stops : Joint → List Token.Located → Prop
  | .and, rest => ∀ next ∈ rest.head?, next.token ≠ .and
  | .or, rest => ∀ next ∈ rest.head?, next.token ≠ .and ∧ next.token ≠ .or

/-- No word follows that would join an operand with more. -/
def Joint.OperandStops : Joint → List Token.Located → Prop
  | .and, _ => True
  | .or, rest => Joint.and.Stops rest

theorem Joint.stops_iff {joint : Joint} {rest : List Token.Located} :
    joint.Stops rest ↔
      joint.OperandStops rest ∧ ∀ next ∈ rest.head?, next.token ≠ joint.token := by
  cases joint with
  | and => simp [Joint.Stops, Joint.OperandStops, Joint.token]
  | or =>
      simp only [Joint.Stops, Joint.OperandStops, Joint.token]
      constructor
      · intro both
        exact ⟨fun next isNext => (both next isNext).1, fun next isNext => (both next isNext).2⟩
      · rintro ⟨first, second⟩ next isNext
        exact ⟨first next isNext, second next isNext⟩

namespace Condition

/-- A parser reads a value from an input just when the value is derived by a stretch of tokens
in front of the rest, nested within a depth, and the rest does not go on with the phrase. -/
def Recognizes {α : Type} (parser : TokenParser α) (depth : Nat) (phrase : α → Phrase)
    (stops : List Token.Located → Prop) : Prop :=
  ∀ input value rest, Reads parser input value rest ↔
    ∃ used, input = used ++ rest ∧ Derives (phrase value) (Token.bare used) ∧
      NestedWithin depth (Token.bare used) ∧ stops rest

/-- What is allowed inside a group when groups may be nested within a depth: nothing, or a
condition that is nested less deep. -/
def Encloses (inner : Option (TokenParser Condition)) : Nat → Prop
  | 0 => inner = none
  | depth + 1 =>
      ∃ parser, inner = some parser ∧ Recognizes parser depth (.joined .or) Joint.or.Stops

/-- A group is read as its inside, provided that it is closed behind it. -/
theorem reads_group_iff {parser : TokenParser Condition} {offset : Nat}
    {input rest : List Token.Located} {tree : Condition} :
    Reads (primary (some parser)) (⟨offset, .opening⟩ :: input) tree rest ↔
      ∃ closeOffset, Reads parser input tree (⟨closeOffset, .closing⟩ :: rest) := by
  constructor
  · rintro ⟨found, result, rfl, rfl⟩
    obtain ⟨group, readGroup, result⟩ := bind_eq_ok_iff.mp result
    obtain ⟨close, readClose, result⟩ := bind_eq_ok_iff.mp result
    have afterInside := eq_cons_of_anyToken readClose
    split at result
    · cases result
    · next isClosing =>
      cases result
      refine ⟨close.value.offset, group, readGroup, rfl, ?_⟩
      rw [← Decidable.not_not.mp isClosing]
      exact afterInside
  · rintro ⟨closeOffset, group, readGroup, rfl, afterInside⟩
    have readClose : ∃ close, anyToken group.rest = .ok close ∧
        close.value = ⟨closeOffset, .closing⟩ ∧ close.rest = rest := by
      rw [afterInside]
      exact ⟨_, rfl, rfl, rfl⟩
    obtain ⟨close, readClose, isClosing, rfl⟩ := readClose
    simp [Reads, primary, readGroup, readClose, isClosing, bind, Except.bind, pure, Except.pure,
      Found.map, Found.after, Found.behind]

/-- A group fails with its inside. -/
theorem primary_failed {parser : TokenParser Condition} {offset : Nat}
    {input : List Token.Located} {error : ConditionError} (failed : parser input = .error error) :
    primary (some parser) (⟨offset, .opening⟩ :: input) = .error error := by
  simp [primary, failed, bind, Except.bind]

/-- Where no group starts, only a comparison can stand. -/
theorem primary_eq_comparisonAt {inner : Option (TokenParser Condition)}
    {input : List Token.Located} (noGroup : ∀ offset more, input ≠ ⟨offset, .opening⟩ :: more) :
    primary inner input = comparisonAt input := by
  unfold primary
  split
  · next offset more => exact absurd rfl (noGroup offset more)
  · rfl

theorem reads_primary_iff_of_ne {inner : Option (TokenParser Condition)}
    {input rest : List Token.Located} {tree : Condition}
    (noGroup : ∀ offset more, input ≠ ⟨offset, .opening⟩ :: more) :
    Reads (primary inner) input tree rest ↔ Reads comparisonAt input tree rest := by
  rw [Reads, Reads, primary_eq_comparisonAt noGroup]

section Levels

variable {inner : Option (TokenParser Condition)} {depth : Nat}

/-- What is read from an opening parenthesis on is a group, one deeper than its inside. -/
theorem derives_of_reads_group (encloses : Encloses inner depth) {offset : Nat}
    {input rest : List Token.Located} {tree : Condition}
    (reads : Reads (primary inner) (⟨offset, .opening⟩ :: input) tree rest) :
    ∃ used, ⟨offset, .opening⟩ :: input = used ++ rest ∧
      Derives (.primary tree) (Token.bare used) ∧ NestedWithin depth (Token.bare used) := by
  cases depth with
  | zero =>
      cases encloses
      obtain ⟨_, result, _⟩ := reads
      cases result
  | succ depth =>
      obtain ⟨parser, rfl, recognizes⟩ := encloses
      obtain ⟨closeOffset, reads⟩ := reads_group_iff.mp reads
      obtain ⟨inside, rfl, derived, nested, _⟩ := (recognizes _ _ _).mp reads
      have spelled : Token.bare (⟨offset, .opening⟩ :: (inside ++ [⟨closeOffset, .closing⟩])) =
          .opening :: (Token.bare inside ++ [.closing]) := by
        simp
      refine ⟨⟨offset, .opening⟩ :: (inside ++ [⟨closeOffset, .closing⟩]), by simp, ?_, ?_⟩
      · rw [spelled]
        exact .group derived
      · rw [spelled, Token.nestedWithin_group derived.balanced]
        exact ⟨depth, rfl, nested⟩

theorem recognizes_primary (encloses : Encloses inner depth) :
    Recognizes (primary inner) depth .primary fun _ => True := by
  intro input tree rest
  constructor
  · intro reads
    by_cases isGroup : ∃ offset more, input = ⟨offset, .opening⟩ :: more
    · obtain ⟨offset, more, rfl⟩ := isGroup
      obtain ⟨used, whole, derived, nested⟩ := derives_of_reads_group encloses reads
      exact ⟨used, whole, derived, nested, trivial⟩
    · rw [reads_primary_iff_of_ne fun offset more equal => isGroup ⟨offset, more, equal⟩] at reads
      obtain ⟨used, whole, compares⟩ := compares_of_reads reads
      exact ⟨used, whole, .comparison compares, compares.nestedWithin depth, trivial⟩
  · rintro ⟨used, rfl, derived, nested, _⟩
    generalize spelled : Token.bare used = tokens at derived nested
    cases derived with
    | comparison compares =>
        rw [reads_primary_iff_of_ne]
        · exact reads_of_compares (spelled ▸ compares) rest
        · intro offset more isGroup
          obtain ⟨name, others, starts⟩ := compares.starts
          obtain ⟨_, _, rfl, _⟩ := Token.bare_eq_cons_iff.mp (spelled.trans starts)
          cases isGroup
    | group derived =>
        rw [Token.nestedWithin_group derived.balanced] at nested
        obtain ⟨depth, rfl, nested⟩ := nested
        obtain ⟨parser, rfl, recognizes⟩ := encloses
        obtain ⟨offset, more, rfl, behind⟩ := Token.bare_eq_cons_iff.mp spelled
        obtain ⟨inside, closing, rfl, rfl, isClosing⟩ := List.map_eq_append_iff.mp behind
        obtain ⟨closeOffset, others, rfl, isLast⟩ := Token.bare_eq_cons_iff.mp isClosing
        obtain rfl := List.map_eq_nil_iff.mp isLast
        rw [List.cons_append, reads_group_iff]
        refine ⟨closeOffset, (recognizes _ _ _).mpr ⟨inside, by simp, derived, nested, ?_⟩⟩
        simp [Joint.Stops]

section Operands

variable {joint : Joint} {item : TokenParser Condition} {rest : List Token.Located}
  {trees : List Condition}

/-- What is read as operands is derived as operands. -/
theorem derives_of_reads_chain
    (recognizes : Recognizes item depth joint.operand joint.OperandStops)
    {input : List Token.Located}
    (reads : Reads (chain (fun symbol => symbol.token = joint.token) item) input trees rest) :
    ∃ used, input = used ++ rest ∧ Derives (.operands joint trees) (Token.bare used) ∧
      NestedWithin depth (Token.bare used) ∧ joint.Stops rest := by
  -- by induction on the input: every operand takes at least one token
  induction size : input.length using Nat.strongRecOn generalizing input trees with
  | ind size ih =>
    subst size
    rcases reads.chain_cases with ⟨tree, readTree, rfl, stops⟩ |
      ⟨tree, symbol, middle, more, readTree, separates, readMore, rfl⟩
    · obtain ⟨used, rfl, derived, nested, operandStops⟩ := (recognizes _ _ _).mp readTree
      refine ⟨used, rfl, .last derived, nested, Joint.stops_iff.mpr ⟨operandStops, ?_⟩⟩
      intro next isNext
      simpa using stops next isNext
    · have shorter : middle.length < input.length :=
        Nat.lt_trans (Nat.lt_succ_self _) readTree.length_lt
      obtain ⟨front, rfl, frontDerived, frontNested, _⟩ := (recognizes _ _ _).mp readTree
      obtain ⟨back, rfl, backDerived, backNested, stops⟩ := ih _ shorter readMore rfl
      have isJoint : symbol.token = joint.token := by simpa using separates
      have spelled : Token.bare (front ++ symbol :: back) =
          Token.bare front ++ joint.token :: Token.bare back := by
        simp [isJoint]
      refine ⟨front ++ symbol :: back, by simp, ?_, ?_, stops⟩
      · rw [spelled]
        exact .more frontDerived backDerived
      · rw [spelled, Token.nestedWithin_join joint frontDerived.balanced]
        exact ⟨frontNested, backNested⟩

/-- An operand that is derived is read before the joining word. -/
theorem reads_operand (recognizes : Recognizes item depth joint.operand joint.OperandStops)
    {used : List Token.Located} {tree : Condition}
    (derived : Derives (joint.operand tree) (Token.bare used))
    (nested : NestedWithin depth (Token.bare used)) (offset : Nat) (rest : List Token.Located) :
    Reads item (used ++ ⟨offset, joint.token⟩ :: rest) tree (⟨offset, joint.token⟩ :: rest) := by
  refine (recognizes _ _ _).mpr ⟨used, rfl, derived, nested, ?_⟩
  cases joint with
  | and => trivial
  | or => simp [Joint.OperandStops, Joint.Stops, Joint.token]

/-- Operands that are derived are read, unless what follows would join more of them. -/
theorem reads_chain_of_derives
    (recognizes : Recognizes item depth joint.operand joint.OperandStops)
    {used : List Token.Located} (derived : Derives (.operands joint trees) (Token.bare used))
    (nested : NestedWithin depth (Token.bare used)) (stops : joint.Stops rest) :
    Reads (chain (fun symbol => symbol.token = joint.token) item) (used ++ rest) trees rest := by
  generalize spelled : Token.bare used = tokens at derived nested
  obtain ⟨operandStops, noJoint⟩ := Joint.stops_iff.mp stops
  induction trees generalizing used tokens with
  | nil => cases derived
  | cons tree trees ih =>
      cases derived with
      | last derived =>
          refine reads_chain_last ((recognizes _ _ _).mpr
            ⟨used, rfl, spelled ▸ derived, spelled ▸ nested, operandStops⟩) ?_
          intro next isNext
          simpa using noJoint next isNext
      | @more _ _ _ front back frontDerived backDerived =>
          rw [Token.nestedWithin_join joint frontDerived.balanced] at nested
          obtain ⟨left, others, rfl, rfl, behind⟩ := List.map_eq_append_iff.mp spelled
          obtain ⟨offset, right, rfl, rfl⟩ := Token.bare_eq_cons_iff.mp behind
          have operand := reads_operand recognizes frontDerived nested.1 offset (right ++ rest)
          rw [List.append_assoc, List.cons_append]
          exact reads_chain_more operand (by simp) (ih _ rfl backDerived nested.2)

end Operands

/-- Operands with a joining word between them are read when each operand is. -/
theorem recognizes_operands {joint : Joint} {item : TokenParser Condition}
    (recognizes : Recognizes item depth joint.operand joint.OperandStops) :
    Recognizes (chain (fun symbol => symbol.token = joint.token) item) depth (.operands joint)
      joint.Stops := by
  intro input trees rest
  constructor
  · exact derives_of_reads_chain recognizes
  · rintro ⟨used, rfl, derived, nested, stops⟩
    exact reads_chain_of_derives recognizes derived nested stops

/-- A parser that joins what it reads recognises joined operands. -/
theorem recognizes_joined (joint : Joint) {item : TokenParser Condition}
    (recognizes : Recognizes item depth joint.operand joint.OperandStops) :
    Recognizes (fun input => (chain (fun symbol => symbol.token = joint.token) item input).map
      (·.map (joined joint.tree))) depth (.joined joint) joint.Stops := by
  intro input tree rest
  rw [reads_map_iff]
  constructor
  · rintro ⟨trees, reads, rfl⟩
    obtain ⟨used, whole, derived, nested, stops⟩ := (recognizes_operands recognizes _ _ _).mp reads
    exact ⟨used, whole, derives_joined_iff.mpr ⟨trees, derived, rfl⟩, nested, stops⟩
  · rintro ⟨used, whole, derived, nested, stops⟩
    obtain ⟨trees, operands, rfl⟩ := derives_joined_iff.mp derived
    exact ⟨trees, (recognizes_operands recognizes _ _ _).mpr ⟨used, whole, operands, nested, stops⟩,
      rfl⟩

theorem recognizes_conjunction (encloses : Encloses inner depth) :
    Recognizes (conjunction inner) depth (.joined .and) Joint.and.Stops :=
  recognizes_joined .and (recognizes_primary encloses)

theorem recognizes_disjunction (encloses : Encloses inner depth) :
    Recognizes (disjunction inner) depth (.joined .or) Joint.or.Stops :=
  recognizes_joined .or (recognizes_conjunction encloses)

end Levels

/-- The parser for a depth reads exactly the conditions whose groups are nested within it. -/
theorem recognizes_withinDepth (depth : Nat) :
    Recognizes (withinDepth depth) depth (.joined .or) Joint.or.Stops := by
  induction depth with
  | zero => exact recognizes_disjunction rfl
  | succ depth ih => exact recognizes_disjunction ⟨withinDepth depth, rfl, ih⟩

/-- A whole list of tokens is a condition just when the grammar derives it within the depth
that is allowed. -/
theorem ofTokens_eq_ok_iff {located : List Token.Located} {tree : Condition} :
    ofTokens located = .ok tree ↔
      Derives (.joined .or tree) (Token.bare located) ∧
        NestedWithin maxDepth (Token.bare located) := by
  have whole : ofTokens located = .ok tree ↔ Reads (withinDepth maxDepth) located tree [] := by
    constructor
    · intro result
      obtain ⟨found, reads, result⟩ := bind_eq_ok_iff.mp result
      split at result
      · next ending =>
        cases result
        exact ⟨found, reads, rfl, ending⟩
      · cases result
    · rintro ⟨found, reads, rfl, ending⟩
      simp [ofTokens, reads, ending, bind, Except.bind, pure, Except.pure]
  rw [whole, recognizes_withinDepth maxDepth]
  constructor
  · rintro ⟨used, rfl, derived, nested, _⟩
    rw [List.append_nil]
    exact ⟨derived, nested⟩
  · rintro ⟨derived, nested⟩
    exact ⟨located, (List.append_nil located).symm, derived, nested, by simp [Joint.Stops]⟩

theorem ofTokens_failed {located : List Token.Located} {error : ConditionError}
    (failed : withinDepth maxDepth located = .error error) : ofTokens located = .error error := by
  simp [ofTokens, failed, bind, Except.bind]

theorem parse_of_tokenize {source : String} {tokens : List Token.Located}
    (cut : tokenize source = .ok tokens) : parse source = ofTokens tokens := by
  rw [parse, cut]
  rfl

/-- A source is a condition just when its tokens are. -/
theorem parse_eq_ok_iff {source : String} {tree : Condition} :
    parse source = .ok tree ↔
      ∃ tokens, tokenize source = .ok tokens ∧ ofTokens tokens = .ok tree :=
  bind_eq_ok_iff

/-- The grammar gives a list of tokens at most one tree, however deep its groups are nested:
the parser for the length of the list finds every derivation. -/
theorem tree_unique {tokens : List Token} {left right : Condition}
    (leftDerived : Derives (.joined .or left) tokens)
    (rightDerived : Derives (.joined .or right) tokens) : left = right := by
  let located : List Token.Located := tokens.map (⟨0, ·⟩)
  have bare : Token.bare located = tokens := by simp [located, Function.comp_def]
  have reads : ∀ tree, Derives (.joined .or tree) tokens →
      Reads (withinDepth tokens.length) located tree [] := by
    intro tree derived
    refine (recognizes_withinDepth tokens.length _ _ _).mpr
      ⟨located, (List.append_nil located).symm, bare.symm ▸ derived, ?_, by simp [Joint.Stops]⟩
    rw [bare]
    exact Token.nestedWithin_length tokens
  exact ((reads left leftDerived).unique (reads right rightDerived)).1

/-- A source is accepted with a tree just when its tokens derive the tree and no place in them
is enclosed by more than 32 open groups.  The grammar is unambiguous; the `AND` inside a range
never joins conditions, and an `OR` inside a conjunction always stands in a group. -/
theorem parse_iff_derives :
    (∀ source tree, parse source = .ok tree ↔
      ∃ tokens, tokenize source = .ok tokens ∧
        Derives (.joined .or tree) (Token.bare tokens) ∧ NestedWithin 32 (Token.bare tokens)) ∧
    (∀ tokens left right, Derives (.joined .or left) tokens → Derives (.joined .or right) tokens →
      left = right) ∧
    (∀ tree tokens low, Derives (.primary tree) tokens → ¬ [.between, .number low] <:+ tokens) ∧
    ∀ tree front back, Derives (.joined .and tree) (front ++ .or :: back) →
      0 < Token.openGroups front := by
  refine ⟨?_, ?_, ?_, ?_⟩
  · intro source tree
    simp only [parse_eq_ok_iff, ofTokens_eq_ok_iff, maxDepth]
  · intro tokens left right
    exact tree_unique
  · intro tree tokens low derived
    exact derived.not_suffix_between low
  · intro tree front back derived
    exact derived.openGroups_pos_of_or rfl front back rfl

/-- `time BETWEEN 6 AND 18 AND (weather = "rainy" OR light < 1)`: two words `AND` of which only
the second joins, and an alternative that needs its group. -/
theorem parse_iff_derives_range_and_group :
    (∀ tree, Derives (.joined .or tree)
        [.identifier "time", .between, .number 6, .and, .number 18, .and, .opening,
          .identifier "weather", .comparator .equal, .text "rainy", .or,
          .identifier "light", .comparator .less, .number 1, .closing] ↔
      tree = .all [.between .time 6 18,
        .any [.comparison .weather .equal (.text "rainy"),
          .comparison .light .less (.number 1)]]) ∧
    (¬ [Token.between, .number 6] <:+
      [.identifier "time", .between, .number 6, .and, .number 18]) ∧
    0 < Token.openGroups [.identifier "time", .between, .number 6, .and, .number 18, .and, .opening,
      .identifier "weather", .comparator .equal, .text "rainy"] := by
  have range : Derives (.primary (.between .time 6 18))
      [.identifier "time", .between, .number 6, .and, .number 18] :=
    .comparison (@Compares.range .time rfl 6 18)
  have rainy : Derives (.joined .and (.comparison .weather .equal (.text "rainy")))
      [.identifier "weather", .comparator .equal, .text "rainy"] :=
    .alone (.last_and (.comparison (.weather "rainy")))
  have dim : Derives (.joined .and (.comparison .light .less (.number 1)))
      [.identifier "light", .comparator .less, .number 1] :=
    .alone (.last_and (.comparison (@Compares.number .light rfl .less 1)))
  have choice := Derives.group
    (.together (by simp) (.more_or rainy (.last_or dim)))
  have both := Derives.together (by simp)
    (.more_and range (.last_and choice))
  have whole := Derives.alone (.last_or both)
  refine ⟨?_, ?_, ?_⟩
  · intro tree
    constructor
    · intro derived
      exact parse_iff_derives.2.1 _ _ _ derived whole
    · rintro rfl
      exact whole
  · exact parse_iff_derives.2.2.1 _ _ 6 range
  · exact parse_iff_derives.2.2.2 _ _ _ both

end Condition

end Lamplight
