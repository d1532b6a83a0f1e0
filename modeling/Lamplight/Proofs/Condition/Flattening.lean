import Lamplight.Condition.Printer
import Lamplight.Proofs.Condition.Grammar

/-!
# Flat conditions

The source form of a condition shows a conjunction inside a conjunction as one conjunction, and
likewise for alternatives.  `Condition.flatten` splices such operands into what they are part of.
The flat condition has the value of the original one, and the same source form.

`AND` and `OR` differ only in which operands are spliced and which stand in parentheses, so that
most of this is said once for a `Joint`.
-/

namespace Lamplight

namespace Condition

/-- Every condition is a comparison, a range, or operands that are joined. -/
@[elab_as_elim] theorem joint_induction {motive : Condition → Prop}
    (comparison : ∀ reading comparator literal, motive (.comparison reading comparator literal))
    (between : ∀ reading low high, motive (.between reading low high))
    (tree : ∀ (joint : Joint) parts, (∀ part ∈ parts, motive part) → motive (joint.tree parts))
    (condition : Condition) : motive condition := by
  refine @Condition.rec motive (fun parts => ∀ part ∈ parts, motive part) comparison between
    (tree .and) (tree .or) ?_ ?_ condition
  · exact List.forall_mem_nil _
  · intro part rest partHolds restHolds
    exact List.forall_mem_cons.mpr ⟨partHolds, restHolds⟩

/-- A condition that a source can spell: the sides of comparisons go together, and two operands at
least are joined. -/
inductive WellFormed : Condition → Prop
  | compares {tree : Condition} {tokens : List Token} : Compares tree tokens → WellFormed tree
  | joined {parts : List Condition} (joint : Joint) (several : 2 ≤ parts.length) :
      (∀ part ∈ parts, WellFormed part) → WellFormed (joint.tree parts)

mutual

/-- The numbers in a condition, from left to right. -/
def numbers : Condition → List Float
  | .comparison _ _ (.number value) => [value]
  | .comparison _ _ (.text _) => []
  | .between _ low high => [low, high]
  | .all parts => numbersOf parts
  | .any parts => numbersOf parts

/-- The numbers in some conditions, from left to right. -/
def numbersOf : List Condition → List Float
  | [] => []
  | part :: rest => numbers part ++ numbersOf rest

end

theorem mem_numbersOf {parts : List Condition} {number : Float} :
    number ∈ numbersOf parts ↔ ∃ part ∈ parts, number ∈ part.numbers := by
  induction parts with
  | nil => simp [numbersOf]
  | cons part rest ih => simp [numbersOf, ih]

@[simp] theorem numbers_tree (joint : Joint) (parts : List Condition) :
    numbers (joint.tree parts) = numbersOf parts := by
  cases joint <;> rw [Joint.tree, numbers]

end Condition

namespace Joint

/-- Whether an operand stands in parentheses. -/
def encloses : Joint → Condition → Bool
  | .and, part => part.isChoice
  | .or, _ => false

/-- The operands that an operand stands for: those of the same joint are spliced. -/
def spliced : Joint → Condition → List Condition
  | .and, .all parts => parts
  | .or, .any parts => parts
  | _, part => [part]

@[simp] theorem spliced_and_or_tree (parts : List Condition) :
    Joint.and.spliced (Joint.or.tree parts) = [Joint.or.tree parts] :=
  rfl

@[simp] theorem spliced_or_and_tree (parts : List Condition) :
    Joint.or.spliced (Joint.and.tree parts) = [Joint.and.tree parts] :=
  rfl

end Joint

namespace Condition

mutual

/-- A condition in which no operand of a joint is joined by the same joint. -/
def flatten : Condition → Condition
  | .comparison reading comparator literal => .comparison reading comparator literal
  | .between reading low high => .between reading low high
  | .all parts => .all (flattenOperands .and parts)
  | .any parts => .any (flattenOperands .or parts)

/-- Flat operands, with those of the same joint spliced. -/
def flattenOperands (joint : Joint) : List Condition → List Condition
  | [] => []
  | part :: rest => joint.spliced (flatten part) ++ flattenOperands joint rest

end

@[simp] theorem flatten_tree (joint : Joint) (parts : List Condition) :
    flatten (joint.tree parts) = joint.tree (flattenOperands joint parts) := by
  cases joint <;> rw [Joint.tree, flatten]

mutual

/-- How many alternatives inside conjunctions enclose one another at most. -/
def choiceDepth : Condition → Nat
  | .comparison _ _ _ => 0
  | .between _ _ _ => 0
  | .all parts => operandsDepth .and parts
  | .any parts => operandsDepth .or parts

/-- The largest depth among operands; one that stands in parentheses counts for one more. -/
def operandsDepth (joint : Joint) : List Condition → Nat
  | [] => 0
  | part :: rest =>
    max ((joint.encloses part).toNat + choiceDepth part) (operandsDepth joint rest)

end

@[simp] theorem choiceDepth_tree (joint : Joint) (parts : List Condition) :
    choiceDepth (joint.tree parts) = operandsDepth joint parts := by
  cases joint <;> rw [Joint.tree, choiceDepth]

theorem operandsDepth_le_iff {joint : Joint} {parts : List Condition} {limit : Nat} :
    operandsDepth joint parts ≤ limit ↔
      ∀ part ∈ parts, (joint.encloses part).toNat + part.choiceDepth ≤ limit := by
  induction parts with
  | nil => simp [operandsDepth]
  | cons part rest ih => rw [operandsDepth, Nat.max_le, ih, List.forall_mem_cons]

/-! ## The value of a flat condition -/

theorem all_spliced_and (sample : Sample) (part : Condition) :
    (Joint.and.spliced part).all (holds sample) = holds sample part := by
  cases part with
  | all parts => exact (holds_all sample parts).symm
  | comparison reading comparator literal => simp [Joint.spliced]
  | between reading low high => simp [Joint.spliced]
  | any parts => simp [Joint.spliced]

theorem any_spliced_or (sample : Sample) (part : Condition) :
    (Joint.or.spliced part).any (holds sample) = holds sample part := by
  cases part with
  | any parts => exact (holds_any sample parts).symm
  | comparison reading comparator literal => simp [Joint.spliced]
  | between reading low high => simp [Joint.spliced]
  | all parts => simp [Joint.spliced]

/-- A flat condition holds when the original one does. -/
theorem holds_flatten (sample : Sample) (condition : Condition) :
    holds sample (flatten condition) = holds sample condition := by
  induction condition using joint_induction with
  | comparison reading comparator literal => rw [flatten]
  | between reading low high => rw [flatten]
  | tree joint parts ih =>
    rw [flatten_tree]
    cases joint with
    | and =>
      change holds sample (.all _) = holds sample (.all parts)
      rw [holds_all, holds_all]
      induction parts with
      | nil => rfl
      | cons part rest restIH =>
        rw [List.forall_mem_cons] at ih
        rw [flattenOperands, List.all_append, all_spliced_and, ih.1, restIH ih.2, List.all_cons]
    | or =>
      change holds sample (.any _) = holds sample (.any parts)
      rw [holds_any, holds_any]
      induction parts with
      | nil => rfl
      | cons part rest restIH =>
        rw [List.forall_mem_cons] at ih
        rw [flattenOperands, List.any_append, any_spliced_or, ih.1, restIH ih.2, List.any_cons]

end Condition

open Condition

namespace Compares

variable {tree : Condition} {tokens : List Token}

/-- A comparison is flat already. -/
theorem flatten_eq (compares : Compares tree tokens) : tree.flatten = tree := by
  cases compares <;> rw [flatten]

/-- A comparison is an operand by itself. -/
theorem spliced_eq (compares : Compares tree tokens) (joint : Joint) :
    joint.spliced tree = [tree] := by
  cases compares <;> cases joint <;> rfl

theorem encloses_eq (compares : Compares tree tokens) (joint : Joint) :
    joint.encloses tree = false := by
  cases compares <;> cases joint <;> rfl

theorem choiceDepth_eq (compares : Compares tree tokens) : tree.choiceDepth = 0 := by
  cases compares <;> rw [choiceDepth]

end Compares

namespace Condition

namespace WellFormed

variable {condition : Condition} {joint : Joint} {parts : List Condition}

/-- Each operand stands for one flat operand at least. -/
theorem spliced_ne_nil (wellFormed : WellFormed condition) (joint : Joint) :
    joint.spliced condition.flatten ≠ [] := by
  induction wellFormed generalizing joint with
  | compares compares =>
    rw [compares.flatten_eq, compares.spliced_eq]
    exact List.cons_ne_nil _ _
  | @joined parts inner several _ ih =>
    have operands : flattenOperands inner parts ≠ [] := by
      cases parts with
      | nil => cases several
      | cons part rest =>
        rw [flattenOperands]
        exact List.append_ne_nil_of_left_ne_nil (ih part List.mem_cons_self inner) _
    rw [flatten_tree]
    cases joint <;> cases inner <;> first | exact operands | exact List.cons_ne_nil _ _

/-- Two operands at least stay two at least. -/
theorem two_le_flattenOperands (joint : Joint) (several : 2 ≤ parts.length)
    (each : ∀ part ∈ parts, WellFormed part) : 2 ≤ (flattenOperands joint parts).length := by
  refine Nat.le_trans several ?_
  clear several
  induction parts with
  | nil => exact Nat.zero_le _
  | cons part rest ih =>
    rw [List.forall_mem_cons] at each
    have some := List.length_pos_iff.mpr (each.1.spliced_ne_nil joint)
    have others := ih each.2
    rw [flattenOperands, List.length_append, List.length_cons]
    omega

end WellFormed

end Condition

/-! ## The source form of a flat condition -/

namespace Joint

/-- The joining word with the blanks around it. -/
def separator : Joint → List Char
  | .and => " AND ".toList
  | .or => " OR ".toList

/-- The source form of operands. -/
def chars : Joint → List Condition → List Char
  | .and => conjoined
  | .or => alternatives

@[simp] theorem chars_tree (joint : Joint) (parts : List Condition) :
    (joint.tree parts).chars = joint.chars parts := by
  cases joint <;> rw [tree, Condition.chars] <;> rfl

theorem chars_singleton (joint : Joint) (part : Condition) :
    joint.chars [part] = enclose (joint.encloses part) part.chars := by
  cases joint with
  | and => rw [chars, conjoined]; rfl
  | or => rw [chars, alternatives]; rfl

theorem chars_cons (joint : Joint) (part : Condition) {rest : List Condition}
    (more : rest ≠ []) :
    joint.chars (part :: rest) =
      enclose (joint.encloses part) part.chars ++ joint.separator ++ joint.chars rest := by
  cases joint with
  | and => rw [chars, conjoined]; rfl; exact fun none => more none
  | or => rw [chars, alternatives]; rfl; exact fun none => more none

theorem chars_append (joint : Joint) {left right : List Condition} (leftNonempty : left ≠ [])
    (rightNonempty : right ≠ []) :
    joint.chars (left ++ right) = joint.chars left ++ joint.separator ++ joint.chars right := by
  induction left with
  | nil => exact absurd rfl leftNonempty
  | cons part rest ih =>
    cases rest with
    | nil => rw [List.singleton_append, joint.chars_cons part rightNonempty, joint.chars_singleton]
    | cons next others =>
      have more := List.cons_ne_nil next others
      rw [List.cons_append, joint.chars_cons part (List.append_ne_nil_of_left_ne_nil more _),
        ih more, joint.chars_cons part more]
      simp only [List.append_assoc]

end Joint

namespace Condition

/-- Splicing operands does not show in their source form. -/
theorem chars_flattenOperands {joint : Joint} {parts : List Condition}
    (nonempty : ∀ part ∈ parts, joint.spliced part.flatten ≠ [])
    (each : ∀ part ∈ parts,
      joint.chars (joint.spliced part.flatten) = enclose (joint.encloses part) part.chars) :
    joint.chars (flattenOperands joint parts) = joint.chars parts := by
  induction parts with
  | nil => rw [flattenOperands]
  | cons part rest ih =>
    rw [List.forall_mem_cons] at nonempty each
    cases rest with
    | nil =>
      rw [flattenOperands, flattenOperands, List.append_nil, each.1, joint.chars_singleton]
    | cons next others =>
      have more : flattenOperands joint (next :: others) ≠ [] := by
        rw [flattenOperands]
        exact List.append_ne_nil_of_left_ne_nil (nonempty.2 next List.mem_cons_self) _
      rw [flattenOperands, joint.chars_append nonempty.1 more, each.1, ih nonempty.2 each.2,
        joint.chars_cons part (List.cons_ne_nil next others)]

namespace WellFormed

variable {condition : Condition}

/-- As an operand, a flat condition has the source form of the original one. -/
theorem chars_spliced (wellFormed : WellFormed condition) (joint : Joint) :
    joint.chars (joint.spliced condition.flatten) =
      enclose (joint.encloses condition) condition.chars := by
  induction wellFormed generalizing joint with
  | compares compares =>
    rw [compares.flatten_eq, compares.spliced_eq, joint.chars_singleton]
  | @joined parts inner _ each ih =>
    have operands := chars_flattenOperands
      (fun part member => (each part member).spliced_ne_nil inner)
      (fun part member => ih part member inner)
    rw [flatten_tree, inner.chars_tree, ← operands]
    cases joint with
    | and =>
      cases inner with
      | and => rfl
      | or => rw [Joint.spliced_and_or_tree, Joint.chars_singleton, Joint.chars_tree]; rfl
    | or =>
      cases inner with
      | and => rw [Joint.spliced_or_and_tree, Joint.chars_singleton, Joint.chars_tree]; rfl
      | or => rfl

/-- A flat condition has the source form of the original one. -/
theorem chars_flatten (wellFormed : WellFormed condition) :
    condition.flatten.chars = condition.chars := by
  cases wellFormed with
  | compares compares => rw [compares.flatten_eq]
  | joined joint _ each =>
    rw [flatten_tree, joint.chars_tree, joint.chars_tree]
    exact chars_flattenOperands (fun part member => (each part member).spliced_ne_nil joint)
      (fun part member => (each part member).chars_spliced joint)

end WellFormed

end Condition

end Lamplight
