import Mathlib.Data.List.Infix
import Lamplight.Condition.Parser

/-!
# The grammar of conditions

What the grammar of conditions derives, as a relation between lists of tokens and trees.  The
relation says nothing about how a parser finds a derivation, and it does not bound how deep
groups stand in one another; the bound is the separate predicate `Token.NestedWithin`.

The two joining words have the same two rules, so they are one parameter of the relation.
-/

namespace Lamplight

namespace Token

/-- How many groups were opened and not closed in a stretch of tokens. -/
def openGroups (tokens : List Token) : Int :=
  (tokens.countP (· = .opening) : Int) - tokens.countP (· = .closing)

/-- No place in the tokens is enclosed by more than `limit` groups that are open at once. -/
def NestedWithin (limit : Nat) (tokens : List Token) : Prop :=
  ∀ front, front <+: tokens → openGroups front ≤ limit

instance (limit : Nat) (tokens : List Token) : Decidable (NestedWithin limit tokens) :=
  decidable_of_iff (∀ front ∈ tokens.inits, openGroups front ≤ limit) <| by
    simp only [List.mem_inits]
    rfl

@[simp] theorem openGroups_nil : openGroups [] = 0 := rfl

@[simp] theorem openGroups_append (front back : List Token) :
    openGroups (front ++ back) = openGroups front + openGroups back := by
  simp only [openGroups, List.countP_append]
  omega

theorem openGroups_cons (token : Token) (rest : List Token) :
    openGroups (token :: rest) = openGroups [token] + openGroups rest :=
  openGroups_append [token] rest

@[simp] theorem openGroups_opening : openGroups [.opening] = 1 := rfl

@[simp] theorem openGroups_closing : openGroups [.closing] = -1 := rfl

theorem openGroups_le_length (tokens : List Token) : openGroups tokens ≤ tokens.length := by
  have opened := List.countP_le_length (p := fun token => decide (token = Token.opening))
    (l := tokens)
  simp only [openGroups]
  omega

/-- A list of tokens cannot open more groups than it has tokens. -/
theorem nestedWithin_length (tokens : List Token) : NestedWithin tokens.length tokens := by
  intro front isFront
  have bound := openGroups_le_length front
  have shorter := isFront.length_le
  omega

/-- Behind a stretch that closes its groups, the nesting starts anew. -/
theorem nestedWithin_append {limit : Nat} {front back : List Token}
    (balanced : openGroups front = 0) :
    NestedWithin limit (front ++ back) ↔ NestedWithin limit front ∧ NestedWithin limit back := by
  constructor
  · intro nested
    constructor
    · intro part isPart
      exact nested part (isPart.trans (List.prefix_append front back))
    · intro part isPart
      have bound := nested (front ++ part) ((List.prefix_append_right_inj front).mpr isPart)
      rwa [openGroups_append, balanced, Int.zero_add] at bound
  · rintro ⟨inFront, inBack⟩ part isPart
    rcases List.prefix_or_prefix_of_prefix isPart (List.prefix_append front back) with
      isPart | ⟨more, rfl⟩
    · exact inFront part isPart
    · rw [openGroups_append, balanced, Int.zero_add]
      exact inBack more ((List.prefix_append_right_inj front).mp isPart)

/-- A token that opens and closes nothing has no part in the nesting. -/
theorem nestedWithin_singleton {limit : Nat} {token : Token} (neutral : openGroups [token] = 0) :
    NestedWithin limit [token] := by
  intro front isFront
  rcases List.prefix_cons_iff.mp isFront with rfl | ⟨rest, rfl, isRest⟩
  · simp
  · rw [List.prefix_nil.mp isRest, neutral]
    exact Int.natCast_nonneg limit

/-- A group adds one to the nesting of its inside. -/
theorem nestedWithin_group {limit : Nat} {inside : List Token} (balanced : openGroups inside = 0) :
    NestedWithin limit (.opening :: (inside ++ [.closing])) ↔
      ∃ inner, limit = inner + 1 ∧ NestedWithin inner inside := by
  constructor
  · intro nested
    have within : ∀ part, part <+: inside → 1 + openGroups part ≤ limit := by
      intro part isPart
      have bound := nested (.opening :: part)
        (List.cons_prefix_cons.mpr ⟨rfl, isPart.trans (List.prefix_append inside _)⟩)
      rwa [openGroups_cons, openGroups_opening] at bound
    have positive := within [] List.nil_prefix
    rw [openGroups_nil] at positive
    refine ⟨limit - 1, by omega, ?_⟩
    intro part isPart
    have bound := within part isPart
    omega
  · rintro ⟨inner, rfl, nested⟩ part isPart
    rcases List.prefix_cons_iff.mp isPart with rfl | ⟨more, rfl, isMore⟩
    · exact Int.natCast_nonneg _
    · rw [openGroups_cons, openGroups_opening]
      rcases List.prefix_concat_iff.mp isMore with rfl | isMore
      · rw [openGroups_append, balanced, openGroups_closing]
        omega
      · have bound := nested more isMore
        omega

end Token

/-- One of the two words that join conditions. -/
inductive Joint
  | and
  | or

namespace Joint

/-- The word itself. -/
def token : Joint → Token
  | .and => .and
  | .or => .or

/-- The tree of several conditions that are joined. -/
def tree : Joint → List Condition → Condition
  | .and => .all
  | .or => .any

@[simp] theorem openGroups_token (joint : Joint) : Token.openGroups [joint.token] = 0 := by
  cases joint <;> rfl

end Joint

namespace Token

/-- Joined stretches are nested as deep as the deeper of the two. -/
theorem nestedWithin_join {limit : Nat} {front back : List Token} (joint : Joint)
    (balanced : openGroups front = 0) :
    NestedWithin limit (front ++ joint.token :: back) ↔
      NestedWithin limit front ∧ NestedWithin limit back := by
  have neutral := joint.openGroups_token
  have apart := @nestedWithin_append limit [joint.token] back neutral
  rw [nestedWithin_append balanced, ← List.singleton_append, apart]
  simp only [nestedWithin_singleton neutral, true_and]

end Token

/-- What a stretch of tokens is read as, with the trees that it spells. -/
inductive Phrase
  /-- A group or a comparison. -/
  | primary (tree : Condition)
  /-- Operands with a joining word between each two of them, one tree for every operand. -/
  | operands (joint : Joint) (trees : List Condition)
  /-- One operand for itself, or several that are joined. -/
  | joined (joint : Joint) (tree : Condition)

/-- What stands between two of the same joining words: `AND` binds tighter than `OR`. -/
def Joint.operand : Joint → Condition → Phrase
  | .and, tree => .primary tree
  | .or, tree => .joined .and tree

/-- The token of a literal. -/
def Literal.token : Literal → Token
  | .number value => .number value
  | .text value => .text value

/-- What a comparison derives. -/
inductive Compares : Condition → List Token → Prop
  /-- `time` or `light`, `BETWEEN`, a number, `AND`, a number. -/
  | range {reading : Reading} (numeric : reading.isNumeric = true) (low high : Float) :
      Compares (.between reading low high)
        [.identifier reading.name, .between, .number low, .and, .number high]
  /-- `time` or `light` compared with a number. -/
  | number {reading : Reading} (numeric : reading.isNumeric = true) (comparator : Comparator)
      (value : Float) :
      Compares (.comparison reading comparator (.number value))
        [.identifier reading.name, .comparator comparator, .number value]
  /-- The weather is some text. -/
  | weather (value : String) :
      Compares (.comparison .weather .equal (.text value))
        [.identifier Reading.weather.name, .comparator .equal, .text value]

/-- The grammar of conditions. -/
inductive Derives : Phrase → List Token → Prop
  /-- A comparison by itself. -/
  | comparison {tree : Condition} {tokens : List Token} :
      Compares tree tokens → Derives (.primary tree) tokens
  /-- A condition in parentheses. -/
  | group {tree : Condition} {inside : List Token} :
      Derives (.joined .or tree) inside →
      Derives (.primary tree) (.opening :: (inside ++ [.closing]))
  /-- A single operand. -/
  | last {joint : Joint} {tree : Condition} {tokens : List Token} :
      Derives (joint.operand tree) tokens → Derives (.operands joint [tree]) tokens
  /-- An operand, the joining word, and more operands. -/
  | more {joint : Joint} {tree : Condition} {trees : List Condition} {front back : List Token} :
      Derives (joint.operand tree) front → Derives (.operands joint trees) back →
      Derives (.operands joint (tree :: trees)) (front ++ joint.token :: back)
  /-- A single operand is what it is without a joining word. -/
  | alone {joint : Joint} {tree : Condition} {tokens : List Token} :
      Derives (.operands joint [tree]) tokens → Derives (.joined joint tree) tokens
  /-- Two or more operands are joined in their order. -/
  | together {joint : Joint} {trees : List Condition} {tokens : List Token}
      (several : 2 ≤ trees.length) :
      Derives (.operands joint trees) tokens → Derives (.joined joint (joint.tree trees)) tokens

namespace Derives

variable {tree : Condition} {trees : List Condition} {tokens front back : List Token}

/-- The last operand of a conjunction. -/
theorem last_and (derived : Derives (.primary tree) tokens) :
    Derives (.operands .and [tree]) tokens :=
  .last derived

/-- The last of some alternatives. -/
theorem last_or (derived : Derives (.joined .and tree) tokens) :
    Derives (.operands .or [tree]) tokens :=
  .last derived

/-- An operand of a conjunction before further ones. -/
theorem more_and (derived : Derives (.primary tree) front)
    (others : Derives (.operands .and trees) back) :
    Derives (.operands .and (tree :: trees)) (front ++ .and :: back) :=
  .more derived others

/-- An alternative before further ones. -/
theorem more_or (derived : Derives (.joined .and tree) front)
    (others : Derives (.operands .or trees) back) :
    Derives (.operands .or (tree :: trees)) (front ++ .or :: back) :=
  .more derived others

end Derives

/-- Joined operands are the operands, with a tree of their own if there are several. -/
theorem derives_joined_iff {joint : Joint} {tree : Condition} {tokens : List Token} :
    Derives (.joined joint tree) tokens ↔
      ∃ trees, Derives (.operands joint trees) tokens ∧
        tree = Condition.joined joint.tree trees := by
  constructor
  · intro derived
    cases derived with
    | alone derived => exact ⟨[tree], derived, rfl⟩
    | @together _ trees _ several derived =>
      refine ⟨trees, derived, ?_⟩
      rcases trees with _ | ⟨first, _ | ⟨second, others⟩⟩
      · simp at several
      · simp at several
      · rfl
  · rintro ⟨trees, derived, rfl⟩
    rcases trees with _ | ⟨first, _ | ⟨second, others⟩⟩
    · cases derived
    · exact .alone derived
    · exact .together (by simp) derived

/-- A comparison opens and closes no group and offers no alternative. -/
theorem Compares.plain {tree : Condition} {tokens : List Token} (compares : Compares tree tokens) :
    ∀ token ∈ tokens, token ≠ .opening ∧ token ≠ .closing ∧ token ≠ .or := by
  cases compares <;> simp

/-- A comparison starts with the name of its reading. -/
theorem Compares.starts {tree : Condition} {tokens : List Token} (compares : Compares tree tokens) :
    ∃ name rest, tokens = .identifier name :: rest := by
  cases compares <;> exact ⟨_, _, rfl⟩

/-- Tokens without parentheses open no group, wherever they are cut. -/
theorem Compares.openGroups_eq_zero {tree : Condition} {tokens front : List Token}
    (compares : Compares tree tokens) (isFront : front <+: tokens) :
    Token.openGroups front = 0 := by
  have opened : front.countP (· = .opening) = 0 := by
    rw [List.countP_eq_zero]
    intro token member
    simpa using (compares.plain token (isFront.subset member)).1
  have closed : front.countP (· = .closing) = 0 := by
    rw [List.countP_eq_zero]
    intro token member
    simpa using (compares.plain token (isFront.subset member)).2.1
  simp [Token.openGroups, opened, closed]

theorem Compares.nestedWithin {tree : Condition} {tokens : List Token}
    (compares : Compares tree tokens) (limit : Nat) : Token.NestedWithin limit tokens := by
  intro front isFront
  rw [compares.openGroups_eq_zero isFront]
  exact Int.natCast_nonneg limit

namespace Derives

variable {phrase : Phrase} {tokens : List Token}

/-- Whatever the grammar derives closes each group that it opens. -/
theorem balanced (derived : Derives phrase tokens) : Token.openGroups tokens = 0 := by
  induction derived with
  | comparison compares => exact compares.openGroups_eq_zero (List.prefix_refl _)
  | group _ ih =>
      rw [Token.openGroups_cons, Token.openGroups_append, ih]
      rfl
  | last _ ih => exact ih
  | @more joint _ _ _ _ _ _ frontIH backIH =>
      rw [Token.openGroups_append, Token.openGroups_cons, Joint.openGroups_token, frontIH, backIH]
      rfl
  | alone _ ih => exact ih
  | together _ _ ih => exact ih

/-- No group is closed before it is opened. -/
theorem openGroups_nonneg (derived : Derives phrase tokens) :
    ∀ front, front <+: tokens → 0 ≤ Token.openGroups front := by
  induction derived with
  | comparison compares =>
      intro front isFront
      exact Int.le_of_eq (compares.openGroups_eq_zero isFront).symm
  | group inner ih =>
      intro front isFront
      rcases List.prefix_cons_iff.mp isFront with rfl | ⟨more, rfl, isMore⟩
      · exact Int.le_refl 0
      · rw [Token.openGroups_cons, Token.openGroups_opening]
        rcases List.prefix_concat_iff.mp isMore with rfl | isMore
        · rw [Token.openGroups_append, inner.balanced]
          exact Int.le_refl 0
        · have nonneg := ih more isMore
          omega
  | last _ ih => exact ih
  | @more joint _ _ front back frontDerived _ frontIH backIH =>
      intro part isPart
      rcases List.prefix_or_prefix_of_prefix isPart (List.prefix_append front _) with
        isPart | ⟨rest, rfl⟩
      · exact frontIH part isPart
      · rw [Token.openGroups_append, frontDerived.balanced, Int.zero_add]
        have isRest := (List.prefix_append_right_inj front).mp isPart
        rcases List.prefix_cons_iff.mp isRest with rfl | ⟨tail, rfl, isTail⟩
        · exact Int.le_refl 0
        · rw [Token.openGroups_cons, Joint.openGroups_token, Int.zero_add]
          exact backIH tail isTail
  | alone _ ih => exact ih
  | together _ _ ih => exact ih

/-- The `AND` between the bounds of a range is not the one that joins: no operand ends where
a range waits for it. -/
theorem not_suffix_between {tree : Condition} (derived : Derives (.primary tree) tokens)
    (low : Float) : ¬ [.between, .number low] <:+ tokens := by
  rintro ⟨front, equal⟩
  have reversed := congrArg List.reverse equal
  cases derived with
  | comparison compares => cases compares <;> simp at reversed
  | group inner => simp at reversed

end Derives

/-- Whether a phrase is part of a conjunction. -/
def Phrase.Conjunctive : Phrase → Prop
  | .primary _ => True
  | .operands joint _ => joint = .and
  | .joined joint _ => joint = .and

/-- `AND` binds tighter than `OR`: an alternative inside a conjunction stands in a group. -/
theorem Derives.openGroups_pos_of_or {phrase : Phrase} {tokens : List Token}
    (derived : Derives phrase tokens) (conjunctive : phrase.Conjunctive) :
    ∀ front back, tokens = front ++ .or :: back → 0 < Token.openGroups front := by
  induction derived with
  | comparison compares =>
      rintro front back rfl
      exact absurd rfl (compares.plain .or (by simp)).2.2
  | @group tree inside inner _ =>
      intro front back equal
      cases front with
      | nil => simp at equal
      | cons first front =>
          simp only [List.cons_append, List.cons.injEq] at equal
          obtain ⟨rfl, equal⟩ := equal
          have isFront : front <+: inside := by
            have part : front <+: inside ++ [.closing] := ⟨_, equal.symm⟩
            rcases List.prefix_concat_iff.mp part with whole | part
            · rw [whole] at equal
              simp at equal
            · exact part
          have nonneg := inner.openGroups_nonneg front isFront
          rw [Token.openGroups_cons, Token.openGroups_opening]
          omega
  | @last joint _ _ _ ih =>
      cases conjunctive
      exact ih trivial
  | @more joint tree trees left right leftDerived _ leftIH rightIH =>
      cases conjunctive
      intro front back equal
      -- the alternative lies in one of the two stretches, since the word between them is `AND`
      rcases List.append_eq_append_iff.mp equal with
        ⟨rest, rfl, behind⟩ | ⟨rest, rfl, behind⟩
      · cases rest with
        | nil => simp [Joint.token] at behind
        | cons first rest =>
            simp only [List.cons_append, List.cons.injEq] at behind
            obtain ⟨rfl, rfl⟩ := behind
            rw [Token.openGroups_append, Token.openGroups_cons, Joint.openGroups_token,
              leftDerived.balanced]
            have positive := rightIH rfl rest back rfl
            omega
      · cases rest with
        | nil => simp [Joint.token] at behind
        | cons first rest =>
            simp only [List.cons_append, List.cons.injEq] at behind
            obtain ⟨rfl, rfl⟩ := behind
            exact leftIH trivial front rest rfl
  | alone _ ih =>
      cases conjunctive
      exact ih rfl
  | together _ _ ih =>
      cases conjunctive
      exact ih rfl

end Lamplight
