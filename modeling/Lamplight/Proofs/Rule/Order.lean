import Lamplight.Rule.Order

/-!
# Which rule goes first

Sorting by priority keeps the rules of every single priority in their order, and nothing else
about a list of rules matters to the sorted list or to the rule that decides.  Both are therefore
characterized by the rules of one priority: the sorted list in `eq_of_sameOrder`, the deciding rule
in `select_eq_some_iff`.
-/

namespace Lamplight.Rule

/-- The rules of one priority number, in their order. -/
def withPriority (priority : Int) (rules : List Rule) : List Rule :=
  rules.filter fun rule => rule.priority = priority

@[simp] theorem mem_withPriority {priority : Int} {rules : List Rule} {rule : Rule} :
    rule ∈ withPriority priority rules ↔ rule ∈ rules ∧ rule.priority = priority := by
  simp [withPriority]

/-- Choosing rules by a test and by their priority can be done in either order. -/
theorem withPriority_filter (priority : Int) (test : Rule → Bool) (rules : List Rule) :
    withPriority priority (rules.filter test) = (withPriority priority rules).filter test := by
  simp only [withPriority, List.filter_filter, Bool.and_comm]

theorem withPriority_cons_self (rule : Rule) (rules : List Rule) :
    withPriority rule.priority (rule :: rules) = rule :: withPriority rule.priority rules := by
  simp [withPriority]

/-- A list that holds the rules of another one, those of equal priority in the same order. -/
structure Rearranges (other rules : List Rule) : Prop where
  perm : other.Perm rules
  sameOrder : ∀ priority, withPriority priority other = withPriority priority rules

namespace Rearranges

variable {other rules : List Rule}

/-- Choosing rules by a test leaves a rearrangement one. -/
theorem filter (rearranges : Rearranges other rules) (test : Rule → Bool) :
    Rearranges (other.filter test) (rules.filter test) := by
  constructor
  · exact rearranges.perm.filter test
  · intro priority
    rw [withPriority_filter, withPriority_filter, rearranges.sameOrder]

end Rearranges

/-! ## The sorted list -/

/-- Sorting keeps the rules of one priority as they are. -/
theorem withPriority_byPriority (priority : Int) (rules : List Rule) :
    withPriority priority (byPriority rules) = withPriority priority rules := by
  have sorted : (withPriority priority rules).Pairwise fun left right =>
      decide (left.priority ≤ right.priority) = true := by
    apply List.pairwise_of_forall_mem_list
    intro left leftMember right rightMember
    rw [mem_withPriority] at leftMember rightMember
    exact decide_eq_true (Int.le_of_eq (leftMember.2.trans rightMember.2.symm))
  have kept : (withPriority priority rules).Sublist (byPriority rules) := by
    apply List.sublist_mergeSort ?_ ?_ sorted List.filter_sublist
    · intro first second third
      simp only [decide_eq_true_eq]
      exact Int.le_trans
    · intro first second
      simp only [Bool.or_eq_true, decide_eq_true_eq]
      exact Int.le_total _ _
  have found :
      (withPriority priority rules).Sublist (withPriority priority (byPriority rules)) := by
    have chosen := kept.filter fun rule => rule.priority = priority
    simpa only [withPriority, List.filter_filter, Bool.and_self] using chosen
  have lengths : (withPriority priority (byPriority rules)).length =
      (withPriority priority rules).length :=
    ((byPriority_perm rules).filter _).length_eq
  exact (found.eq_of_length lengths.symm).symm

/-- Sorting is a rearrangement. -/
theorem byPriority_rearranges (rules : List Rule) : Rearranges (byPriority rules) rules where
  perm := byPriority_perm rules
  sameOrder := fun priority => withPriority_byPriority priority rules

/-- The first of sorted rules has the lowest number. -/
theorem head_le_of_sorted {first : Rule} {rest : List Rule}
    (sorted : (first :: rest).Pairwise fun left right => left.priority ≤ right.priority) :
    ∀ rule ∈ first :: rest, first.priority ≤ rule.priority := by
  intro rule member
  rcases List.mem_cons.mp member with rfl | member
  · exact Int.le_refl _
  · exact (List.pairwise_cons.mp sorted).1 rule member

section SameOrder

variable {left right : List Rule}

/-- Lists with the same rules of every priority have the same rules. -/
theorem mem_iff_of_sameOrder
    (sameOrder : ∀ priority, withPriority priority left = withPriority priority right)
    (rule : Rule) : rule ∈ left ↔ rule ∈ right := by
  have same := congrArg (rule ∈ ·) (sameOrder rule.priority)
  simpa using same

/-- A rule in front of both lists has no part in the comparison. -/
theorem withPriority_eq_of_cons {rule : Rule} {priority : Int}
    (whole : withPriority priority (rule :: left) = withPriority priority (rule :: right)) :
    withPriority priority left = withPriority priority right := by
  simp only [withPriority, List.filter_cons] at whole
  split at whole
  · exact (List.cons.inj whole).2
  · exact whole

end SameOrder

/-- Two sorted lists with the same rules of every priority are equal. -/
theorem eq_of_sameOrder {left right : List Rule}
    (leftSorted : left.Pairwise fun first second => first.priority ≤ second.priority)
    (rightSorted : right.Pairwise fun first second => first.priority ≤ second.priority)
    (sameOrder : ∀ priority, withPriority priority left = withPriority priority right) :
    left = right := by
  have member := mem_iff_of_sameOrder sameOrder
  induction left generalizing right with
  | nil =>
    symm
    rw [List.eq_nil_iff_forall_not_mem]
    intro rule found
    exact List.not_mem_nil ((member rule).mpr found)
  | cons first rest ih =>
    cases right with
    | nil => exact absurd ((member first).mp List.mem_cons_self) List.not_mem_nil
    | cons other others =>
      have below : first.priority ≤ other.priority :=
        head_le_of_sorted leftSorted other ((member other).mpr List.mem_cons_self)
      have above : other.priority ≤ first.priority :=
        head_le_of_sorted rightSorted first ((member first).mp List.mem_cons_self)
      have level : other.priority = first.priority := Int.le_antisymm above below
      have heads := sameOrder first.priority
      rw [withPriority_cons_self, ← level, withPriority_cons_self, level] at heads
      have equal : first = other := (List.cons.inj heads).1
      subst equal
      have tails : ∀ priority, withPriority priority rest = withPriority priority others := by
        intro priority
        exact withPriority_eq_of_cons (sameOrder priority)
      rw [ih leftSorted.of_cons rightSorted.of_cons tails (mem_iff_of_sameOrder tails)]

/-- Rearranged rules are sorted into the same list. -/
theorem Rearranges.byPriority_eq {other rules : List Rule} (rearranges : Rearranges other rules) :
    byPriority other = byPriority rules := by
  apply eq_of_sameOrder (byPriority_pairwise other) (byPriority_pairwise rules)
  intro priority
  rw [withPriority_byPriority, withPriority_byPriority, rearranges.sameOrder]

/-- Choosing rules by a test can be done before or after sorting. -/
theorem byPriority_filter (test : Rule → Bool) (rules : List Rule) :
    byPriority (rules.filter test) = (byPriority rules).filter test := by
  apply eq_of_sameOrder (byPriority_pairwise _) ((byPriority_pairwise rules).filter test)
  intro priority
  rw [withPriority_byPriority, withPriority_filter, withPriority_filter, withPriority_byPriority]

/-! ## The rule that decides -/

/-- A rule of a lower number than those before it, and of no higher one than those after it, has
the lowest number of all. -/
theorem le_of_split {rule : Rule} {before after : List Rule}
    (earlier : ∀ other ∈ before, rule.priority < other.priority)
    (later : ∀ other ∈ after, rule.priority ≤ other.priority) :
    ∀ other ∈ before ++ rule :: after, rule.priority ≤ other.priority := by
  intro other member
  rw [List.mem_append, List.mem_cons] at member
  rcases member with member | rfl | member
  · exact Int.le_of_lt (earlier other member)
  · exact Int.le_refl _
  · exact later other member

/-- What the deciding rule leaves before and after itself. -/
theorem foldl_winner_split (rules : List Rule) (best : Rule) :
    ∃ before after, best :: rules = before ++ rules.foldl winner best :: after ∧
      (∀ rule ∈ before, (rules.foldl winner best).priority < rule.priority) ∧
      ∀ rule ∈ after, (rules.foldl winner best).priority ≤ rule.priority := by
  induction rules generalizing best with
  | nil => exact ⟨[], [], rfl, by simp, by simp⟩
  | cons next rest ih =>
    obtain ⟨before, after, split, earlier, later⟩ := ih (winner best next)
    rw [List.foldl_cons]
    -- Either rule can win the first round, and the loser is put back where it was.
    by_cases lower : next.priority < best.priority
    · have won : winner best next = next := if_pos lower
      rw [won] at split earlier later ⊢
      have least : (rest.foldl winner next).priority ≤ next.priority := by
        apply le_of_split earlier later
        rw [← split]
        exact List.mem_cons_self
      refine ⟨best :: before, after, by rw [split, List.cons_append], ?_, later⟩
      intro rule member
      rcases List.mem_cons.mp member with rfl | member
      · exact Int.lt_of_le_of_lt least lower
      · exact earlier rule member
    · have won : winner best next = best := if_neg lower
      rw [won] at split earlier later ⊢
      rw [Int.not_lt] at lower
      cases before with
      | nil =>
        rw [List.nil_append, List.cons.injEq] at split
        refine ⟨[], next :: after, ?_, by simp, ?_⟩
        · rw [← split.1, ← split.2, List.nil_append]
        · intro rule member
          rcases List.mem_cons.mp member with rfl | member
          · rw [← split.1]
            exact lower
          · exact later rule member
      | cons first before =>
        rw [List.cons_append, List.cons.injEq] at split
        obtain ⟨rfl, split⟩ := split
        refine ⟨best :: next :: before, after, ?_, ?_, later⟩
        · exact congrArg (best :: next :: ·) split
        · intro rule member
          have least := earlier best List.mem_cons_self
          rcases List.mem_cons.mp member with rfl | member
          · exact least
          · rcases List.mem_cons.mp member with rfl | member
            · exact Int.lt_of_lt_of_le least lower
            · exact earlier rule (List.mem_cons_of_mem best member)

/-- The deciding rule has the lowest number, and only rules of higher numbers come before it. -/
theorem select_split {rules : List Rule} {rule : Rule} (selected : select rules = some rule) :
    ∃ before after, rules = before ++ rule :: after ∧
      (∀ other ∈ before, rule.priority < other.priority) ∧
      ∀ other ∈ after, rule.priority ≤ other.priority := by
  cases rules with
  | nil => cases selected
  | cons best rest =>
    rw [select, Option.some.injEq] at selected
    rw [← selected]
    exact foldl_winner_split rest best

theorem select_eq_none_iff {rules : List Rule} : select rules = none ↔ rules = [] := by
  cases rules with
  | nil => exact iff_of_true rfl rfl
  | cons best rest => exact iff_of_false (Option.some_ne_none _) (List.cons_ne_nil best rest)

/-- The deciding rule is the first one of its priority, and no rule has a lower number. -/
theorem select_first {rules : List Rule} {rule : Rule} (selected : select rules = some rule) :
    (withPriority rule.priority rules).head? = some rule ∧
      ∀ other ∈ rules, rule.priority ≤ other.priority := by
  obtain ⟨before, after, split, earlier, later⟩ := select_split selected
  have passed : withPriority rule.priority before = [] := by
    rw [withPriority, List.filter_eq_nil_iff]
    intro other member
    have higher := earlier other member
    rw [decide_eq_true_eq]
    exact Int.ne_of_gt higher
  constructor
  · have rest := withPriority_cons_self rule after
    simp only [withPriority] at passed rest
    rw [split, withPriority, List.filter_append, passed, rest]
    rfl
  · rw [split]
    exact le_of_split earlier later

/-- The deciding rule is the first one of the lowest priority number. -/
theorem select_eq_some_iff {rules : List Rule} {rule : Rule} :
    select rules = some rule ↔
      (withPriority rule.priority rules).head? = some rule ∧
        ∀ other ∈ rules, rule.priority ≤ other.priority := by
  constructor
  · exact select_first
  · intro ⟨first, least⟩
    cases found : select rules with
    | none =>
      rw [select_eq_none_iff] at found
      rw [found] at first
      cases first
    | some other =>
      obtain ⟨otherFirst, otherLeast⟩ := select_first found
      have member : rule ∈ rules := (mem_withPriority.mp (List.mem_of_mem_head? first)).1
      have otherMember : other ∈ rules := (mem_withPriority.mp (List.mem_of_mem_head? otherFirst)).1
      have level : other.priority = rule.priority :=
        Int.le_antisymm (otherLeast rule member) (least other otherMember)
      rw [level, first] at otherFirst
      exact otherFirst.symm

/-- Rearranged rules are decided by the same rule. -/
theorem Rearranges.select_eq {other rules : List Rule} (rearranges : Rearranges other rules) :
    select other = select rules := by
  apply Option.ext
  intro rule
  rw [select_eq_some_iff, select_eq_some_iff, rearranges.sameOrder]
  have members : (∀ found ∈ other, rule.priority ≤ found.priority) ↔
      ∀ found ∈ rules, rule.priority ≤ found.priority := by
    simp only [rearranges.perm.mem_iff]
  rw [members]

/-- Of sorted rules the first one decides. -/
theorem select_eq_head? {rules : List Rule}
    (sorted : rules.Pairwise fun left right => left.priority ≤ right.priority) :
    select rules = rules.head? := by
  cases rules with
  | nil => rfl
  | cons rule rest =>
    rw [List.head?_cons, select_eq_some_iff, withPriority_cons_self]
    exact ⟨rfl, head_le_of_sorted sorted⟩

end Lamplight.Rule
