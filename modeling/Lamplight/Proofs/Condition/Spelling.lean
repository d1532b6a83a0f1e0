import Lamplight.Proofs.Condition.Flattening

/-!
# The tokens of a condition

The tokens of the source form of a condition, and what the grammar reads in them: the flat
condition, with groups that enclose one another as deep as alternatives inside conjunctions do.
Conversely, what the grammar derives is well formed, and its depth is bounded by the nesting of the
groups.
-/

namespace Lamplight

/-- Tokens in parentheses where they are needed. -/
def Token.enclose (needed : Bool) (tokens : List Token) : List Token :=
  if needed then .opening :: (tokens ++ [.closing]) else tokens

theorem Token.nestedWithin_enclose {limit : Nat} {needed : Bool} {tokens : List Token}
    (balanced : openGroups tokens = 0) :
    NestedWithin limit (enclose needed tokens) ↔
      ∃ inner, limit = needed.toNat + inner ∧ NestedWithin inner tokens := by
  cases needed with
  | true =>
    have group := @nestedWithin_group limit tokens balanced
    simpa only [enclose, if_true, Bool.toNat_true, Nat.add_comm] using group
  | false =>
    constructor
    · intro nested
      exact ⟨limit, (Nat.zero_add limit).symm, nested⟩
    · rintro ⟨inner, rfl, nested⟩
      rwa [Bool.toNat_false, Nat.zero_add]

namespace Condition

mutual

/-- The tokens of the source form of a condition. -/
def tokens : Condition → List Token
  | .comparison reading comparator literal =>
    [.identifier reading.name, .comparator comparator, literal.token]
  | .between reading low high =>
    [.identifier reading.name, .between, .number low, .and, .number high]
  | .all parts => operandTokens .and parts
  | .any parts => operandTokens .or parts

/-- The tokens of operands with the joining word between each two of them. -/
def operandTokens (joint : Joint) : List Condition → List Token
  | [] => []
  | [part] => Token.enclose (joint.encloses part) (tokens part)
  | part :: rest =>
    Token.enclose (joint.encloses part) (tokens part) ++ joint.token :: operandTokens joint rest

end

@[simp] theorem tokens_tree (joint : Joint) (parts : List Condition) :
    tokens (joint.tree parts) = operandTokens joint parts := by
  cases joint <;> rw [Joint.tree, tokens]

theorem operandTokens_cons {joint : Joint} (part : Condition) {rest : List Condition}
    (more : rest ≠ []) :
    operandTokens joint (part :: rest) =
      Token.enclose (joint.encloses part) (tokens part) ++
        joint.token :: operandTokens joint rest := by
  cases rest with
  | nil => exact absurd rfl more
  | cons next rest => rw [operandTokens]; simp

end Condition

/-- A comparison has the tokens that the grammar wants. -/
theorem Compares.tokens_eq {tree : Condition} {tokens : List Token}
    (compares : Compares tree tokens) : tree.tokens = tokens := by
  cases compares <;> rfl

namespace Derives

variable {joint : Joint}

/-- Operands before further operands. -/
theorem operands_append {left right : List Condition} {front back : List Token}
    (leftDerived : Derives (.operands joint left) front)
    (rightDerived : Derives (.operands joint right) back) :
    Derives (.operands joint (left ++ right)) (front ++ joint.token :: back) := by
  induction left generalizing front with
  | nil => cases leftDerived
  | cons first rest ih =>
    cases leftDerived with
    | last derived => exact .more derived rightDerived
    | more derived restDerived =>
      rw [List.append_assoc, List.cons_append]
      exact .more derived (ih restDerived)

end Derives

namespace Condition

/-- Flat operands are derived when each of them is. -/
theorem derives_flattenOperands {joint : Joint} {parts : List Condition} (nonempty : parts ≠ [])
    (each : ∀ part ∈ parts, Derives (.operands joint (joint.spliced part.flatten))
      (Token.enclose (joint.encloses part) part.tokens)) :
    Derives (.operands joint (flattenOperands joint parts)) (operandTokens joint parts) := by
  induction parts with
  | nil => exact absurd rfl nonempty
  | cons part rest ih =>
    rw [List.forall_mem_cons] at each
    cases rest with
    | nil =>
      rw [flattenOperands, flattenOperands, List.append_nil, operandTokens]
      exact each.1
    | cons next others =>
      have more := List.cons_ne_nil next others
      rw [flattenOperands, operandTokens_cons part more]
      exact each.1.operands_append (ih more each.2)

/-- Operands are nested as deep as the deepest of them. -/
theorem nestedWithin_operandTokens {joint : Joint} {parts : List Condition} {limit : Nat}
    (balanced : ∀ part ∈ parts,
      Token.openGroups (Token.enclose (joint.encloses part) part.tokens) = 0)
    (each : ∀ part ∈ parts,
      Token.NestedWithin limit (Token.enclose (joint.encloses part) part.tokens)) :
    Token.NestedWithin limit (operandTokens joint parts) := by
  induction parts with
  | nil =>
    intro front isFront
    rw [List.prefix_nil.mp isFront]
    exact Int.natCast_nonneg limit
  | cons part rest ih =>
    rw [List.forall_mem_cons] at balanced each
    cases rest with
    | nil =>
      rw [operandTokens]
      exact each.1
    | cons next others =>
      rw [operandTokens_cons part (List.cons_ne_nil next others),
        Token.nestedWithin_join joint balanced.1]
      exact ⟨each.1, ih balanced.2 each.2⟩

namespace WellFormed

variable {condition : Condition} {joint : Joint} {parts : List Condition}

/-- As an operand, a condition is read as the flat operands that it stands for. -/
theorem derives_spliced (wellFormed : WellFormed condition) (joint : Joint) :
    Derives (.operands joint (joint.spliced condition.flatten))
      (Token.enclose (joint.encloses condition) condition.tokens) := by
  induction wellFormed generalizing joint with
  | compares compares =>
    rw [compares.flatten_eq, compares.spliced_eq, compares.encloses_eq, compares.tokens_eq]
    cases joint with
    | and => exact .last_and (.comparison compares)
    | or => exact .last_or (.alone (.last_and (.comparison compares)))
  | @joined parts inner several each ih =>
    have nonempty : parts ≠ [] := List.length_pos_iff.mp (Nat.lt_of_lt_of_le Nat.two_pos several)
    have operands := derives_flattenOperands nonempty fun part member => ih part member inner
    have still := two_le_flattenOperands inner several each
    rw [flatten_tree, tokens_tree]
    -- An operand of the same joint is spliced; alternatives in a conjunction are a group.
    cases joint with
    | and =>
      cases inner with
      | and => exact operands
      | or => exact .last_and (.group (.together still operands))
    | or =>
      cases inner with
      | and => exact .last_or (.together still operands)
      | or => exact operands

/-- The grammar reads the tokens of a condition as the flat condition. -/
theorem derives_flatten (wellFormed : WellFormed condition) :
    Derives (.joined .or condition.flatten) condition.tokens := by
  have operands := wellFormed.derives_spliced .or
  cases wellFormed with
  | compares compares =>
    rw [compares.flatten_eq, compares.spliced_eq] at operands
    rw [compares.flatten_eq]
    exact .alone operands
  | joined inner several each =>
    rw [flatten_tree] at operands ⊢
    cases inner with
    | and => exact .alone operands
    | or => exact .together (two_le_flattenOperands _ several each) operands

theorem openGroups_tokens (wellFormed : WellFormed condition) :
    Token.openGroups condition.tokens = 0 :=
  wellFormed.derives_flatten.balanced

/-- Groups enclose one another in the source form just as alternatives do in the condition. -/
theorem nestedWithin_tokens (wellFormed : WellFormed condition) {limit : Nat}
    (depth : condition.choiceDepth ≤ limit) : Token.NestedWithin limit condition.tokens := by
  induction wellFormed generalizing limit with
  | compares compares =>
    rw [compares.tokens_eq]
    exact compares.nestedWithin limit
  | @joined parts joint _ each ih =>
    rw [choiceDepth_tree, operandsDepth_le_iff] at depth
    rw [tokens_tree]
    have operand : ∀ part ∈ parts,
        Token.NestedWithin limit (Token.enclose (joint.encloses part) part.tokens) := by
      intro part member
      rw [Token.nestedWithin_enclose (each part member).openGroups_tokens]
      have bound := depth part member
      exact ⟨limit - (joint.encloses part).toNat, by omega, ih part member (by omega)⟩
    exact nestedWithin_operandTokens
      (fun part member => ((each part member).derives_spliced joint).balanced) operand

end WellFormed

end Condition

/-! ## What the grammar derives -/

open Condition

namespace Phrase

/-- The trees of a phrase. -/
def trees : Phrase → List Condition
  | .primary tree => [tree]
  | .operands _ trees => trees
  | .joined _ tree => [tree]

/-- How many groups the source form of a phrase needs inside one another. -/
def depth : Phrase → Nat
  | .primary tree => operandsDepth .and [tree]
  | .operands joint trees => operandsDepth joint trees
  | .joined _ tree => tree.choiceDepth

theorem trees_operand (joint : Joint) (tree : Condition) : (joint.operand tree).trees = [tree] := by
  cases joint <;> rfl

theorem depth_operand (joint : Joint) (tree : Condition) :
    (joint.operand tree).depth = operandsDepth joint [tree] := by
  cases joint with
  | and => rfl
  | or => simp [Joint.operand, depth, operandsDepth, Joint.encloses]

end Phrase

namespace Derives

variable {phrase : Phrase} {tokens : List Token}

/-- The grammar derives well-formed conditions only. -/
theorem wellFormed (derived : Derives phrase tokens) : ∀ tree ∈ phrase.trees, WellFormed tree := by
  induction derived with
  | comparison compares => exact List.forall_mem_singleton.mpr (.compares compares)
  | group _ ih => exact ih
  | last _ ih => rwa [Phrase.trees_operand] at ih
  | more _ _ frontIH backIH =>
    rw [Phrase.trees_operand, List.forall_mem_singleton] at frontIH
    exact List.forall_mem_cons.mpr ⟨frontIH, backIH⟩
  | alone _ ih => exact ih
  | together several _ ih => exact List.forall_mem_singleton.mpr (.joined _ several ih)

/-- Groups that are nested within a limit leave room for no deeper condition. -/
theorem depth_le (derived : Derives phrase tokens) {limit : Nat}
    (nested : Token.NestedWithin limit tokens) : phrase.depth ≤ limit := by
  induction derived generalizing limit with
  | comparison compares =>
    rw [Phrase.depth, operandsDepth_le_iff, List.forall_mem_singleton, compares.encloses_eq,
      compares.choiceDepth_eq]
    exact Nat.zero_le limit
  | @group tree inside inner ih =>
    obtain ⟨room, rfl, within⟩ := (Token.nestedWithin_group inner.balanced).mp nested
    have bound : tree.choiceDepth ≤ room := ih within
    have one := Bool.toNat_le (Joint.and.encloses tree)
    rw [Phrase.depth, operandsDepth_le_iff, List.forall_mem_singleton]
    omega
  | last _ ih =>
    have bound := ih nested
    rwa [Phrase.depth_operand] at bound
  | @more joint tree trees front back frontDerived _ frontIH backIH =>
    rw [Token.nestedWithin_join joint frontDerived.balanced] at nested
    have bound := frontIH nested.1
    rw [Phrase.depth_operand, operandsDepth_le_iff, List.forall_mem_singleton] at bound
    rw [Phrase.depth, operandsDepth_le_iff, List.forall_mem_cons]
    exact ⟨bound, operandsDepth_le_iff.mp (backIH nested.2)⟩
  | @alone joint tree _ _ ih =>
    have bound := ih nested
    rw [Phrase.depth, operandsDepth_le_iff, List.forall_mem_singleton] at bound
    exact Nat.le_trans (Nat.le_add_left _ _) bound
  | @together joint trees _ _ _ ih =>
    rw [Phrase.depth, choiceDepth_tree]
    exact ih nested

end Derives

end Lamplight
