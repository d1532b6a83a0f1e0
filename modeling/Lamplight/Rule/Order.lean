import Lamplight.Rule.Basic

/-!
# The order of rules

Rules are applied in ascending order of their priority numbers, and rules of one priority
stay in the order in which they are listed.  Of several rules the first one of the lowest
number decides.
-/

namespace Lamplight.Rule

/-- Rules in the order in which they are applied. -/
def byPriority (rules : List Rule) : List Rule :=
  rules.mergeSort fun left right => left.priority ≤ right.priority

/-- The one of two rules that decides: the second one only if its number is lower. -/
def winner (best next : Rule) : Rule :=
  if next.priority < best.priority then next else best

/-- The rule that decides among some. -/
def select : List Rule → Option Rule
  | [] => none
  | rule :: rest => some (rest.foldl winner rule)

theorem byPriority_perm (rules : List Rule) : (byPriority rules).Perm rules :=
  List.mergeSort_perm rules _

theorem byPriority_pairwise (rules : List Rule) :
    (byPriority rules).Pairwise fun left right => left.priority ≤ right.priority := by
  have sorted : (byPriority rules).Pairwise fun left right =>
      decide (left.priority ≤ right.priority) = true := by
    refine List.pairwise_mergeSort ?_ ?_ rules
    · intro a b c
      simp only [decide_eq_true_eq]
      exact Int.le_trans
    · intro a b
      simp only [Bool.or_eq_true, decide_eq_true_eq]
      exact Int.le_total _ _
  simpa using sorted

@[simp] theorem length_byPriority (rules : List Rule) :
    (byPriority rules).length = rules.length := by
  simp [byPriority]

end Lamplight.Rule
