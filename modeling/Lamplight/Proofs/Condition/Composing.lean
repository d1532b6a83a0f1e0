import Lamplight.Proofs.Condition.Covering

/-!
# Conditions made of conditions

The sources of two conditions can be written behind one another with `OR` between them, and one in
parentheses stands for itself wherever an operand is wanted.  What a source means does not change
by that; only its groups count, and a source with as many groups around one another as there may be
is refused in parentheses.
-/

namespace Lamplight

open Text

open Token (NestedWithin)

/-! ## Joining texts -/

namespace Lexes

variable {text rest : List Char} {tokens others : List Token}

/-- A text in parentheses, before further text. -/
theorem group (inside : Lexes text tokens) (behind : Lexes rest others) :
    Lexes ('(' :: (text ++ ')' :: rest)) (.opening :: (tokens ++ .closing :: others)) :=
  .cons (.opening _) (inside.append (.cons (.closing rest) behind) (growsToken_closing rest))

/-- Two texts with a joining word between them. -/
theorem join (joint : Joint) (front : Lexes text tokens) (back : Lexes rest others) :
    Lexes (text ++ (joint.separator ++ rest)) (tokens ++ joint.token :: others) := by
  refine front.append (Condition.lexes_separator joint back) ?_
  cases joint <;> exact growsToken_blank _

end Lexes

/-! ## Joining phrases -/

namespace Derives

variable {left right : Condition} {front back : List Token}

theorem of_primary {tree : Condition} {tokens : List Token}
    (derived : Derives (.primary tree) tokens) : Derives (.joined .or tree) tokens :=
  .alone (.last_or (.alone (.last_and derived)))

/-- The operands of two alternatives are the operands of one. -/
theorem either (leftDerived : Derives (.joined .or left) front)
    (rightDerived : Derives (.joined .or right) back) :
    ∃ tree, Derives (.joined .or tree) (front ++ .or :: back) ∧
      ∀ sample, tree.holds sample = (left.holds sample || right.holds sample) := by
  obtain ⟨lefts, leftOperands, rfl⟩ := derives_joined_iff.mp leftDerived
  obtain ⟨rights, rightOperands, rfl⟩ := derives_joined_iff.mp rightDerived
  have value : ∀ trees sample, (Condition.joined Joint.or.tree trees).holds sample =
      trees.any (Condition.holds sample) := by
    intro trees sample
    rcases trees with _ | ⟨first, _ | ⟨second, others⟩⟩
    · exact Condition.holds_any sample []
    · simp [Condition.joined]
    · exact Condition.holds_any sample _
  refine ⟨_, derives_joined_iff.mpr ⟨_, leftOperands.operands_append rightOperands, rfl⟩, ?_⟩
  intro sample
  rw [value, value, value, List.any_append]

/-- Two conditions in parentheses with `AND` between them. -/
theorem both (leftDerived : Derives (.joined .or left) front)
    (rightDerived : Derives (.joined .or right) back) :
    Derives (.joined .or (.all [left, right]))
      (.opening :: (front ++ [.closing]) ++ .and :: .opening :: (back ++ [.closing])) :=
  .alone (.last_or (.together (by simp) (.more_and (.group leftDerived)
    (.last_and (.group rightDerived)))))

end Derives

namespace Condition

/-! ## Groups that are nested too deep -/

/-- A parser refuses what the grammar derives, if groups are nested in it deeper than it allows. -/
def Refuses {α : Type} (parser : TokenParser α) (depth : Nat) (phrase : α → Phrase) : Prop :=
  ∀ used value rest, Derives (phrase value) (Token.bare used) →
    ¬ NestedWithin depth (Token.bare used) →
      ∃ position, parser (used ++ rest) = .error (.malformed position (.tooDeep maxDepth))

section Levels

variable {inner : Option (TokenParser Condition)} {depth : Nat}

/-- A group is refused at its opening or inside it. -/
theorem refuses_primary (encloses : Encloses inner depth)
    (inside : ∀ parser room, inner = some parser → depth = room + 1 →
      Refuses parser room (.joined .or)) :
    Refuses (primary inner) depth .primary := by
  intro used tree rest derived tooDeep
  generalize spelled : Token.bare used = tokens at derived tooDeep
  cases derived with
  | comparison compares => exact absurd (compares.nestedWithin depth) tooDeep
  | @group _ enclosed derived =>
    obtain ⟨offset, more, rfl, behind⟩ := Token.bare_eq_cons_iff.mp spelled
    cases depth with
    | zero =>
      cases encloses
      exact ⟨offset, rfl⟩
    | succ room =>
      obtain ⟨parser, rfl, _⟩ := encloses
      have deepInside : ¬ NestedWithin room enclosed := by
        intro nested
        exact tooDeep ((Token.nestedWithin_group derived.balanced).mpr ⟨room, rfl, nested⟩)
      obtain ⟨front, closing, rfl, rfl, _⟩ := List.map_eq_append_iff.mp behind
      obtain ⟨position, failed⟩ :=
        inside parser room rfl rfl front tree (closing ++ rest) derived deepInside
      refine ⟨position, ?_⟩
      rw [List.cons_append, List.append_assoc]
      exact primary_failed failed

/-- Operands are refused with the first of them that is nested too deep. -/
theorem refuses_operands {joint : Joint} {item : TokenParser Condition}
    (recognizes : Recognizes item depth joint.operand joint.OperandStops)
    (refuses : Refuses item depth joint.operand) :
    Refuses (chain (fun symbol => symbol.token = joint.token) item) depth (.operands joint) := by
  intro used trees rest derived tooDeep
  generalize spelled : Token.bare used = tokens at derived tooDeep
  induction trees generalizing used tokens with
  | nil => cases derived
  | cons tree trees ih =>
    cases derived with
    | last derived =>
      subst spelled
      obtain ⟨position, failed⟩ := refuses used tree rest derived tooDeep
      exact ⟨position, chain_error_first failed⟩
    | @more _ _ _ front back frontDerived backDerived =>
      rw [Token.nestedWithin_join joint frontDerived.balanced] at tooDeep
      obtain ⟨left, others, rfl, rfl, behind⟩ := List.map_eq_append_iff.mp spelled
      obtain ⟨offset, right, rfl, rfl⟩ := Token.bare_eq_cons_iff.mp behind
      rw [List.append_assoc, List.cons_append]
      by_cases nested : NestedWithin depth (Token.bare left)
      · obtain ⟨position, failed⟩ :=
          ih right _ rfl backDerived fun nestedBack => tooDeep ⟨nested, nestedBack⟩
        have reads := reads_operand recognizes frontDerived nested offset (right ++ rest)
        exact ⟨position, chain_error_more reads (by simp) failed⟩
      · obtain ⟨position, failed⟩ := refuses left tree _ frontDerived nested
        exact ⟨position, chain_error_first failed⟩

theorem refuses_joined (joint : Joint) {item : TokenParser Condition}
    (recognizes : Recognizes item depth joint.operand joint.OperandStops)
    (refuses : Refuses item depth joint.operand) :
    Refuses (fun input => (chain (fun symbol => symbol.token = joint.token) item input).map
      (·.map (joined joint.tree))) depth (.joined joint) := by
  intro used tree rest derived tooDeep
  obtain ⟨trees, operands, rfl⟩ := derives_joined_iff.mp derived
  obtain ⟨position, failed⟩ := refuses_operands recognizes refuses used trees rest operands tooDeep
  refine ⟨position, ?_⟩
  dsimp only
  rw [failed]
  rfl

theorem refuses_disjunction (encloses : Encloses inner depth)
    (inside : ∀ parser room, inner = some parser → depth = room + 1 →
      Refuses parser room (.joined .or)) :
    Refuses (disjunction inner) depth (.joined .or) :=
  refuses_joined .or (recognizes_conjunction encloses)
    (refuses_joined .and (recognizes_primary encloses) (refuses_primary encloses inside))

end Levels

/-- The parser for a depth refuses the conditions whose groups are nested deeper. -/
theorem refuses_withinDepth (depth : Nat) : Refuses (withinDepth depth) depth (.joined .or) := by
  induction depth with
  | zero => exact @refuses_disjunction none 0 rfl (by rintro _ _ ⟨⟩)
  | succ depth ih =>
    have encloses : Encloses (some (withinDepth depth)) (depth + 1) :=
      ⟨withinDepth depth, rfl, recognizes_withinDepth depth⟩
    refine refuses_disjunction encloses ?_
    rintro _ _ ⟨⟩ ⟨⟩
    exact ih

/-! ## Sources -/

section Sources

variable {source : String} {tokens : List Token} {tree : Condition}

theorem parse_of_lexes (lexes : Lexes source.toList tokens)
    (derived : Derives (.joined .or tree) tokens) (nested : NestedWithin 32 tokens) :
    parse source = .ok tree := by
  obtain ⟨located, cut, rfl⟩ := lexes.tokenize
  exact parse_eq_ok_iff.mpr ⟨located, cut, ofTokens_eq_ok_iff.mpr ⟨derived, nested⟩⟩

theorem parse_refused (lexes : Lexes source.toList tokens)
    (derived : Derives (.joined .or tree) tokens) (tooDeep : ¬ NestedWithin 32 tokens) :
    ∃ position, parse source = .error (.malformed position (.tooDeep 32)) := by
  obtain ⟨located, cut, rfl⟩ := lexes.tokenize
  obtain ⟨position, failed⟩ := refuses_withinDepth maxDepth located tree [] derived tooDeep
  rw [List.append_nil] at failed
  refine ⟨position, ?_⟩
  rw [parse_of_tokenize cut]
  exact ofTokens_failed failed

end Sources

/-- Sources can be written behind one another with `OR`, and in parentheses with `AND`, as long as
their groups leave room for one more around them.  A source whose groups leave none is refused in
parentheses. -/
theorem sources_compose {left right : String} {leftTree rightTree : Condition}
    (readLeft : parse left = .ok leftTree) (readRight : parse right = .ok rightTree) :
    (∃ either, parse (left ++ " OR " ++ right) = .ok either ∧
      ∀ sample, either.holds sample = (leftTree.holds sample || rightTree.holds sample)) ∧
    ∃ leftTokens rightTokens, tokenize left = .ok leftTokens ∧ tokenize right = .ok rightTokens ∧
      NestedWithin 32 (Token.bare leftTokens) ∧
      (NestedWithin 31 (Token.bare leftTokens) → parse ("(" ++ left ++ ")") = .ok leftTree) ∧
      (NestedWithin 31 (Token.bare leftTokens) → NestedWithin 31 (Token.bare rightTokens) →
        parse ("(" ++ left ++ ") AND (" ++ right ++ ")") = .ok (.all [leftTree, rightTree])) ∧
      (¬ NestedWithin 31 (Token.bare leftTokens) →
        ∃ position, parse ("(" ++ left ++ ")") = .error (.malformed position (.tooDeep 32))) := by
  obtain ⟨leftTokens, cutLeft, builtLeft⟩ := parse_eq_ok_iff.mp readLeft
  obtain ⟨rightTokens, cutRight, builtRight⟩ := parse_eq_ok_iff.mp readRight
  obtain ⟨leftDerived, leftNested⟩ := ofTokens_eq_ok_iff.mp builtLeft
  obtain ⟨rightDerived, rightNested⟩ := ofTokens_eq_ok_iff.mp builtRight
  have leftLexes := Lexes.of_tokenize cutLeft
  have rightLexes := Lexes.of_tokenize cutRight
  have grouped : Lexes ("(" ++ left ++ ")").toList
      (.opening :: (Token.bare leftTokens ++ [.closing])) := by
    have group := leftLexes.group .nil
    simpa using group
  have room : ∀ tokens, Token.openGroups tokens = 0 → NestedWithin 31 tokens →
      NestedWithin 32 (.opening :: (tokens ++ [.closing])) := by
    intro tokens balanced nested
    exact (Token.nestedWithin_group balanced).mpr ⟨31, rfl, nested⟩
  refine ⟨?_, leftTokens, rightTokens, cutLeft, cutRight, leftNested, ?_, ?_, ?_⟩
  · obtain ⟨either, derived, value⟩ := leftDerived.either rightDerived
    refine ⟨either, parse_of_lexes ?_ derived ?_, value⟩
    · have joined := leftLexes.join .or rightLexes
      simpa [Joint.separator, Joint.token] using joined
    · exact (Token.nestedWithin_join .or leftDerived.balanced).mpr ⟨leftNested, rightNested⟩
  · intro nested
    exact parse_of_lexes grouped (.of_primary (.group leftDerived))
      (room _ leftDerived.balanced nested)
  · intro nested nestedRight
    refine parse_of_lexes ?_ (leftDerived.both rightDerived) ?_
    · have joined := (leftLexes.group .nil).join .and (rightLexes.group .nil)
      simpa [Joint.separator, Joint.token] using joined
    · have balanced := (Derives.group leftDerived).balanced
      exact (Token.nestedWithin_join .and balanced).mpr
        ⟨room _ leftDerived.balanced nested, room _ rightDerived.balanced nestedRight⟩
  · intro deep
    refine parse_refused grouped (.of_primary (.group leftDerived)) ?_
    intro nested
    obtain ⟨inner, equal, nested⟩ := (Token.nestedWithin_group leftDerived.balanced).mp nested
    cases equal
    exact deep nested

/-- A comparison in as many groups as there may be around one another. -/
def deepest : String :=
  String.ofList (List.replicate 32 '(' ++ ("light < 5".toList ++ List.replicate 32 ')'))

/-- A quoted text with parentheses and joining words, a range, and a source that leaves no room. -/
theorem sources_compose_quoted_range_deepest :
    parse ("(" ++ "weather = \"dark) OR (\" OR light < 1" ++ ") AND (" ++
        "time BETWEEN 6 AND 18 OR light<5" ++ ")") =
      .ok (.all [
        .any [.comparison .weather .equal (.text "dark) OR ("),
          .comparison .light .less (.number 1)],
        .any [.between .time 6 18, .comparison .light .less (.number 5)]]) ∧
    (∃ either, parse (deepest ++ " OR " ++ deepest) = .ok either) ∧
    ∃ position, parse ("(" ++ deepest ++ ")") = .error (.malformed position (.tooDeep 32)) := by
  have cutQuoted : tokenize "weather = \"dark) OR (\" OR light < 1" =
      .ok [⟨0, .identifier "weather"⟩, ⟨8, .comparator .equal⟩, ⟨10, .text "dark) OR ("⟩, ⟨23, .or⟩,
        ⟨26, .identifier "light"⟩, ⟨32, .comparator .less⟩, ⟨34, .number 1⟩] := by
    decide +kernel
  have cutRange : tokenize "time BETWEEN 6 AND 18 OR light<5" =
      .ok [⟨0, .identifier "time"⟩, ⟨5, .between⟩, ⟨13, .number 6⟩, ⟨15, .and⟩, ⟨19, .number 18⟩,
        ⟨22, .or⟩, ⟨25, .identifier "light"⟩, ⟨30, .comparator .less⟩, ⟨31, .number 5⟩] := by
    decide +kernel
  have cutDeepest : tokenize deepest =
      .ok ((List.range 32).map (⟨·, .opening⟩) ++
        ([⟨32, .identifier "light"⟩, ⟨38, .comparator .less⟩, ⟨40, .number 5⟩] ++
          (List.range' 41 32).map (⟨·, .closing⟩))) := by
    decide +kernel
  have readQuoted := parse_eq_ok_iff.mpr ⟨_, cutQuoted,
    show ofTokens _ = .ok (.any [.comparison .weather .equal (.text "dark) OR ("),
      .comparison .light .less (.number 1)]) by cbv⟩
  have readRange := parse_eq_ok_iff.mpr ⟨_, cutRange,
    show ofTokens _ = .ok (.any [.between .time 6 18, .comparison .light .less (.number 5)]) by cbv⟩
  have readDeepest := parse_eq_ok_iff.mpr ⟨_, cutDeepest,
    show ofTokens _ = .ok (.comparison .light .less (.number 5)) by cbv⟩
  refine ⟨?_, ?_, ?_⟩
  · obtain ⟨_, leftTokens, rightTokens, cutLeft, cutRight, _, _, both, _⟩ :=
      sources_compose readQuoted readRange
    cases cutQuoted.symm.trans cutLeft
    cases cutRange.symm.trans cutRight
    exact both (by decide +kernel) (by decide +kernel)
  · obtain ⟨⟨either, read, _⟩, _⟩ := sources_compose readDeepest readDeepest
    exact ⟨either, read⟩
  · obtain ⟨_, leftTokens, _, cutLeft, _, _, _, _, refused⟩ :=
      sources_compose readDeepest readDeepest
    cases cutDeepest.symm.trans cutLeft
    exact refused (by decide +kernel)

end Condition

end Lamplight
