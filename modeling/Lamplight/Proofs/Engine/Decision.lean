import Lamplight.Proofs.Engine.Trace
import Lamplight.Proofs.Rule.Order

/-!
# The decision over rules in memory

A source in memory sorts its rules, the engine keeps those that fire, and `Rule.select` looks for
the first rule of the lowest priority number.  Sorting commutes with the choice of the firing rules,
so that the decision can be read off the listed rules themselves.
-/

namespace Lamplight

namespace Rule

variable {sample : Sample} {rules : List Rule}

/-- Sorting does not change which rule decides. -/
theorem select_byPriority (rules : List Rule) : select (byPriority rules) = select rules :=
  (byPriority_rearranges rules).select_eq

/-- The rule that decides among the firing ones, seen from the listed rules. -/
theorem select_filter_split {rule : Rule}
    (selected : select (rules.filter fun rule => rule.fires sample) = some rule) :
    ∃ before after, rules = before ++ rule :: after ∧ rule.fires sample = true ∧
      (∀ other ∈ before, other.fires sample = true → rule.priority < other.priority) ∧
      ∀ other ∈ after, other.fires sample = true → rule.priority ≤ other.priority := by
  obtain ⟨firstFiring, lastFiring, split, earlier, later⟩ := select_split selected
  obtain ⟨first, rest, rfl, firstEq, restEq⟩ := List.filter_eq_append_iff.mp split
  obtain ⟨middle, last, rfl, idle, fires, lastEq⟩ := List.filter_eq_cons_iff.mp restEq
  refine ⟨first ++ middle, last, ?_, fires, ?_, ?_⟩
  · rw [List.append_assoc]
  · intro other member otherFires
    rcases List.mem_append.mp member with member | member
    · apply earlier
      rw [← firstEq]
      exact List.mem_filter.mpr ⟨member, otherFires⟩
    · exact absurd otherFires (idle other member)
  · intro other member otherFires
    apply later
    rw [← lastEq]
    exact List.mem_filter.mpr ⟨member, otherFires⟩

/-- No rule decides exactly when none fires. -/
theorem select_filter_eq_none_iff :
    select (rules.filter fun rule => rule.fires sample) = none ↔
      ∀ rule ∈ rules, rule.fires sample = false := by
  rw [select_eq_none_iff, List.filter_eq_nil_iff]
  simp only [Bool.not_eq_true]

end Rule

namespace Engine

variable {m : Type → Type} [Monad m]

/-- An engine over rules in memory. -/
def inMemory (categories : Categories) (rules : List Rule) (sink : Sink m) : Engine m where
  categories := categories
  source := .inMemory rules
  sink := sink

/-- The engine sees the sorted rules and nothing else of the list. -/
theorem evaluate_inMemory [LawfulMonad m] (categories : Categories) (rules : List Rule)
    (sink : Sink m) (sample : Sample) :
    (inMemory categories rules sink).evaluate sample = do
      forM (Event.trace categories sample (.ok (Rule.byPriority rules))) sink.record
      return .ok (.ofRules categories sample (Rule.byPriority rules)) := by
  rw [evaluate_eq]
  simp [inMemory, RuleSource.inMemory, Event.trace]

/-- What an engine over rules in memory decides.  The activated rules are the firing ones in
sorted order, and the first of them decides, which is the first rule of the lowest number among the
firing rules as they are listed.  Nothing of this changes when rules of different priorities trade
places. -/
theorem inMemory_decision [LawfulMonad m] (categories : Categories) (rules : List Rule)
    (sink : Sink m) (sample : Sample) :
    (∃ outcome : Outcome,
      ((inMemory categories rules sink).evaluate sample = do
        forM (Event.trace categories sample (.ok (Rule.byPriority rules))) sink.record
        return .ok outcome) ∧
      outcome.activated = Rule.byPriority (rules.filter fun rule => rule.fires sample) ∧
      outcome.selected = outcome.activated.head? ∧
      outcome.selected = Rule.select (rules.filter fun rule => rule.fires sample) ∧
      (outcome.selected = none ↔ ∀ rule ∈ rules, rule.fires sample = false) ∧
      ∀ rule, outcome.selected = some rule →
        ∃ before after, rules = before ++ rule :: after ∧ rule.fires sample = true ∧
          (∀ other ∈ before, other.fires sample = true → rule.priority < other.priority) ∧
          ∀ other ∈ after, other.fires sample = true → rule.priority ≤ other.priority) ∧
    ∀ other : List Rule, Rule.Rearranges other rules →
      (inMemory categories other sink).evaluate sample =
        (inMemory categories rules sink).evaluate sample ∧
      Rule.byPriority (other.filter fun rule => rule.fires sample) =
        Rule.byPriority (rules.filter fun rule => rule.fires sample) ∧
      Rule.select (other.filter fun rule => rule.fires sample) =
        Rule.select (rules.filter fun rule => rule.fires sample) := by
  constructor
  · have sorted := Rule.byPriority_filter (fun rule => rule.fires sample) rules
    have selected : (Outcome.ofRules categories sample (Rule.byPriority rules)).selected =
        Rule.select (rules.filter fun rule => rule.fires sample) := by
      rw [Outcome.selected, Outcome.ofRules, ← sorted, Rule.select_byPriority]
    refine ⟨.ofRules categories sample (Rule.byPriority rules),
      evaluate_inMemory categories rules sink sample, sorted.symm, ?_, selected, ?_, ?_⟩
    · exact Rule.select_eq_head? ((Rule.byPriority_pairwise rules).filter _)
    · rw [selected]
      exact Rule.select_filter_eq_none_iff
    · intro rule decides
      rw [selected] at decides
      exact Rule.select_filter_split decides
  · intro other rearranges
    have firing := rearranges.filter fun rule => rule.fires sample
    refine ⟨?_, firing.byPriority_eq, firing.select_eq⟩
    rw [evaluate_inMemory, evaluate_inMemory, rearranges.byPriority_eq]

/-- A second rule for rain, of the same priority. -/
def drizzle : Rule := { rain with name := "drizzle", action := "glow" }

/-- Of two rules for rain the one that is listed first decides, wherever the rule for fog and the
malformed rule stand. -/
theorem inMemory_decision_of_traded_places :
    LawfulMonad (StateM Journal) ∧
    Rule.Rearranges [fog, rain, broken, drizzle] [rain, drizzle, broken, fog] ∧
    (inMemory .standard [fog, rain, broken, drizzle] (.journal (m := StateM Journal))).evaluate
        ⟨6, 10, "rain"⟩ =
      (inMemory .standard [rain, drizzle, broken, fog] (.journal (m := StateM Journal))).evaluate
        ⟨6, 10, "rain"⟩ ∧
    Rule.select ([fog, rain, broken, drizzle].filter fun rule => rule.fires ⟨6, 10, "rain"⟩) =
      some rain := by
  have rearranges : Rule.Rearranges [fog, rain, broken, drizzle] [rain, drizzle, broken, fog] := by
    constructor
    · have reversed := List.reverse_perm [drizzle, broken, fog]
      exact (List.Perm.swap rain fog [broken, drizzle]).trans (reversed.cons rain)
    · intro priority
      simp only [Rule.withPriority, List.filter_cons, List.filter_nil, fog, rain, broken, drizzle,
        decide_eq_true_eq]
      split <;> split <;> (try split) <;> first | rfl | omega
  have decided := (inMemory_decision .standard [rain, drizzle, broken, fog]
    (.journal (m := StateM Journal)) ⟨6, 10, "rain"⟩).2 _ rearranges
  have selected : Rule.select ([rain, drizzle, broken, fog].filter
      fun rule => rule.fires ⟨6, 10, "rain"⟩) = some rain := by
    have rainy : rain.fires ⟨6, 10, "rain"⟩ = true := by decide +kernel
    have drizzly : drizzle.fires ⟨6, 10, "rain"⟩ = true := by decide +kernel
    have truncated : broken.fires ⟨6, 10, "rain"⟩ = false := by decide +kernel
    have clear : fog.fires ⟨6, 10, "rain"⟩ = false := by decide +kernel
    simp only [List.filter_cons, List.filter_nil, rainy, drizzly, truncated, clear]
    rfl
  exact ⟨inferInstance, rearranges, decided.1, decided.2.2.trans selected⟩

end Engine

end Lamplight
