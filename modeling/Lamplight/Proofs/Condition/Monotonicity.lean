import Lamplight.Proofs.Condition.Flattening
import Lamplight.Proofs.Decimal.Order
import Lamplight.Proofs.Engine.Trace

/-!
# Conditions without negation

No condition asks that something does not hold.  So a sample on which more of the leaves hold is one
on which the whole condition holds if it held before.  A comparison with what is no number fails,
whichever comparison it is, so a reading that is no number only takes leaves away from those that
hold.
-/

namespace Lamplight

open Decimal

/-! ## Comparisons -/

namespace Comparator

/-- The order of two ranks for which a comparison asks. -/
def Orders : Comparator → Int → Int → Prop
  | .equal, left, right => left = right
  | .less, left, right => left < right
  | .lessEqual, left, right => left ≤ right
  | .greater, left, right => right < left
  | .greaterEqual, left, right => right ≤ left

section Numbers

variable {left right : Float}

/-- What needs two numbers and is the same as an order between such is both together. -/
theorem iff_of_numbers {holding ordered : Prop}
    (numbers : holding → left.isNaN = false ∧ right.isNaN = false)
    (agree : left.isNaN = false → right.isNaN = false → (holding ↔ ordered)) :
    holding ↔ (left.isNaN = false ∧ right.isNaN = false) ∧ ordered := by
  constructor
  · intro holds
    have known := numbers holds
    exact ⟨known, (agree known.1 known.2).mp holds⟩
  · rintro ⟨known, inOrder⟩
    exact (agree known.1 known.2).mpr inOrder

/-- A comparison holds between two numbers that are numbers and whose ranks have its order. -/
theorem holds_iff {comparator : Comparator} :
    comparator.holds left right = true ↔
      (left.isNaN = false ∧ right.isNaN = false) ∧ comparator.Orders (rank left) (rank right) := by
  cases comparator with
  | equal => exact iff_of_numbers isNumber_of_beq beq_iff_rank_eq
  | less =>
    rw [holds, decide_eq_true_iff]
    exact iff_of_numbers isNumber_of_lt lt_iff_rank_lt
  | lessEqual =>
    rw [holds, decide_eq_true_iff]
    exact iff_of_numbers isNumber_of_le le_iff_rank_le
  | greater =>
    rw [holds, decide_eq_true_iff]
    exact iff_of_numbers (fun greater => (isNumber_of_lt greater).symm)
      fun leftNumber rightNumber => lt_iff_rank_lt rightNumber leftNumber
  | greaterEqual =>
    rw [holds, decide_eq_true_iff]
    exact iff_of_numbers (fun greaterEqual => (isNumber_of_le greaterEqual).symm)
      fun leftNumber rightNumber => le_iff_rank_le rightNumber leftNumber

end Numbers

end Comparator

namespace Sample

/-- The value of a reading, unless it is a word. -/
def number? (sample : Sample) : Reading → Option Float
  | .time => some sample.time
  | .light => some sample.light
  | .weather => none

variable {sample : Sample} {reading : Reading}

/-- A comparison that holds is one of two numbers, or finds the weather to be a word. -/
theorem compares_iff {comparator : Comparator} {literal : Literal} :
    sample.compares reading comparator literal = true ↔
      (∃ left right, sample.number? reading = some left ∧ literal = .number right ∧
        comparator.holds left right = true) ∨
      reading = .weather ∧ comparator = .equal ∧ literal = .text sample.weather := by
  cases reading <;> cases literal <;> simp [compares, number?, @eq_comm _ sample.weather]

/-- A range that holds is one of a number. -/
theorem within_iff {low high : Float} :
    sample.within reading low high = true ↔
      ∃ value, sample.number? reading = some value ∧
        Comparator.greaterEqual.holds value low = true ∧
        Comparator.lessEqual.holds value high = true := by
  cases reading <;> simp [within, number?, Comparator.holds]

end Sample

/-! ## Leaves -/

namespace Condition

mutual

/-- The comparisons and ranges in a condition, from left to right. -/
def leaves : Condition → List Condition
  | .comparison reading comparator literal => [.comparison reading comparator literal]
  | .between reading low high => [.between reading low high]
  | .all parts => leavesOf parts
  | .any parts => leavesOf parts

/-- The comparisons and ranges in some conditions, from left to right. -/
def leavesOf : List Condition → List Condition
  | [] => []
  | part :: rest => leaves part ++ leavesOf rest

end

theorem leavesOf_eq (parts : List Condition) : leavesOf parts = parts.flatMap leaves := by
  induction parts with
  | nil => rfl
  | cons part rest ih => rw [leavesOf, ih, List.flatMap_cons]

theorem leaves_tree (joint : Joint) (parts : List Condition) :
    leaves (joint.tree parts) = parts.flatMap leaves := by
  cases joint <;> rw [Joint.tree, leaves, leavesOf_eq]

/-- What is true of all comparisons and ranges is true of all leaves. -/
theorem forall_mem_leaves {property : Condition → Prop}
    (comparison : ∀ reading comparator literal, property (.comparison reading comparator literal))
    (between : ∀ reading low high, property (.between reading low high)) (condition : Condition) :
    ∀ leaf ∈ condition.leaves, property leaf := by
  induction condition using joint_induction with
  | comparison reading comparator literal =>
    exact List.forall_mem_singleton.mpr (comparison reading comparator literal)
  | between reading low high => exact List.forall_mem_singleton.mpr (between reading low high)
  | tree joint parts ih =>
    intro leaf member
    rw [leaves_tree, List.mem_flatMap] at member
    obtain ⟨part, isPart, inPart⟩ := member
    exact ih part isPart leaf inPart

section TwoSamples

variable {sample other : Sample} {condition : Condition}

/-- A condition goes on to hold where its leaves do. -/
theorem holds_of_leaves
    (each : ∀ leaf ∈ condition.leaves, leaf.holds sample = true → leaf.holds other = true)
    (holding : condition.holds sample = true) : condition.holds other = true := by
  induction condition using joint_induction with
  | comparison reading comparator literal => exact each _ (List.mem_singleton_self _) holding
  | between reading low high => exact each _ (List.mem_singleton_self _) holding
  | tree joint parts ih =>
    have inherited : ∀ part ∈ parts, part.holds sample = true → part.holds other = true := by
      intro part member
      refine ih part member ?_
      intro leaf inPart
      refine each leaf ?_
      rw [leaves_tree, List.mem_flatMap]
      exact ⟨part, member, inPart⟩
    cases joint with
    | and =>
      rw [Joint.tree, holds_all, List.all_eq_true] at holding ⊢
      intro part member
      exact inherited part member (holding part member)
    | or =>
      rw [Joint.tree, holds_any, List.any_eq_true] at holding ⊢
      obtain ⟨part, member, holds⟩ := holding
      exact ⟨part, member, inherited part member holds⟩

end TwoSamples

end Condition

/-! ## Readings that are no numbers -/

/-- One sample has all readings of another one that are numbers, and its weather. -/
structure Sample.Completes (full blind : Sample) : Prop where
  number : ∀ reading value, blind.number? reading = some value → value.isNaN = false →
    full.number? reading = some value
  weather : full.weather = blind.weather

namespace Sample.Completes

variable {full blind : Sample}

/-- A sample with any time and any light level completes one in which a time or a light level that
differs is no number. -/
theorem of_eq_or_isNaN (time : blind.time.isNaN = true ∨ full.time = blind.time)
    (light : blind.light.isNaN = true ∨ full.light = blind.light)
    (weather : full.weather = blind.weather) : full.Completes blind := by
  refine ⟨?_, weather⟩
  intro reading value known isNumber
  cases reading with
  | time =>
    cases known
    rcases time with none | same
    · rw [none] at isNumber
      cases isNumber
    · rw [number?, same]
  | light =>
    cases known
    rcases light with none | same
    · rw [none] at isNumber
      cases isNumber
    · rw [number?, same]
  | weather => cases known

/-- A number of which a comparison holds is one, and so is found in the other sample as well. -/
theorem number_of_holds (completes : full.Completes blind) {reading : Reading} {value bound : Float}
    {comparator : Comparator} (known : blind.number? reading = some value)
    (holds : comparator.holds value bound = true) : full.number? reading = some value :=
  completes.number reading value known (Comparator.holds_iff.mp holds).1.1

/-- A leaf that holds in spite of missing numbers holds with them. -/
theorem holds_leaf (completes : full.Completes blind) (condition : Condition) :
    ∀ leaf ∈ condition.leaves, leaf.holds blind = true → leaf.holds full = true := by
  refine Condition.forall_mem_leaves ?_ ?_ condition
  · intro reading comparator literal
    rw [Condition.holds, Condition.holds, compares_iff, compares_iff, completes.weather]
    refine Or.imp_left ?_
    rintro ⟨left, right, known, isNumber, holds⟩
    exact ⟨left, right, completes.number_of_holds known holds, isNumber, holds⟩
  · intro reading low high
    rw [Condition.holds, Condition.holds, within_iff, within_iff]
    rintro ⟨value, known, above, below⟩
    exact ⟨value, completes.number_of_holds known above, above, below⟩

/-- A condition that holds in spite of missing numbers holds with them. -/
theorem holds (completes : full.Completes blind) {condition : Condition}
    (holding : condition.holds blind = true) : condition.holds full = true :=
  Condition.holds_of_leaves (completes.holds_leaf condition) holding

end Sample.Completes

/-- A rule that fires in spite of missing numbers fires with them. -/
theorem Sample.Completes.fires {full blind : Sample} (completes : full.Completes blind)
    {rule : Rule} (firing : rule.fires blind = true) : rule.fires full = true := by
  obtain ⟨condition, parsed, holding⟩ := Rule.fires_iff.mp firing
  exact Rule.fires_iff.mpr ⟨condition, parsed, completes.holds holding⟩

namespace Condition

/-- A condition that holds although the time or the light level or both are no numbers holds
whatever they are instead, and a rule that fires goes on firing.  In general, a condition that holds
on a sample holds on every sample on which those of its leaves hold that hold on the first one. -/
theorem undefined_readings_only_switch_off (condition : Condition) :
    (∀ (sample : Sample) (noTime noLight time light : Float),
      noTime.isNaN = true → noLight.isNaN = true →
      (condition.holds { sample with time := noTime } = true →
        condition.holds { sample with time } = true) ∧
      (condition.holds { sample with light := noLight } = true →
        condition.holds { sample with light } = true) ∧
      (condition.holds { sample with time := noTime, light := noLight } = true →
        condition.holds { sample with time, light } = true)) ∧
    (∀ full blind : Sample, full.Completes blind → ∀ rule : Rule, rule.fires blind = true →
      rule.fires full = true) ∧
    ∀ sample other : Sample,
      (∀ leaf ∈ condition.leaves, leaf.holds sample = true → leaf.holds other = true) →
      condition.holds sample = true → condition.holds other = true := by
  refine ⟨?_, ?_, ?_⟩
  · intro sample noTime noLight time light timeMissing lightMissing
    have withTime : ({ sample with time } : Sample).Completes { sample with time := noTime } :=
      .of_eq_or_isNaN (.inl timeMissing) (.inr rfl) rfl
    have withLight : ({ sample with light } : Sample).Completes { sample with light := noLight } :=
      .of_eq_or_isNaN (.inr rfl) (.inl lightMissing) rfl
    have withBoth : ({ sample with time, light } : Sample).Completes
        { sample with time := noTime, light := noLight } :=
      .of_eq_or_isNaN (.inl timeMissing) (.inl lightMissing) rfl
    exact ⟨withTime.holds, withLight.holds, withBoth.holds⟩
  · intro full blind completes rule firing
    exact completes.fires firing
  · intro sample other each holding
    exact holds_of_leaves each holding

/-- Rain in the dark, or any evening. -/
def darkOrEvening : Condition :=
  .any [.all [.comparison .weather .equal (.text "rainy"), .comparison .light .less (.number 0.5)],
    .between .time 18 23]

/-- Rain in the dark is noticed at no time at all, and an evening without a light level; so they are
noticed at every time and in every light, and so is rain alone.  In the dark no leaf is lost. -/
theorem undefined_readings_only_switch_off_darkOrEvening :
    (¬darkOrEvening.holds ⟨0.0 / 0.0, 0.0 / 0.0, "rainy"⟩ = true) ∧
    (∀ time, darkOrEvening.holds ⟨time, 0.25, "rainy"⟩ = true) ∧
    (∀ light, darkOrEvening.holds ⟨20, light, "clear"⟩ = true) ∧
    (∀ time light, Engine.rain.fires ⟨time, light, "rain"⟩ = true) ∧
    darkOrEvening.holds ⟨21, 0.25, "rainy"⟩ = true := by
  have only := undefined_readings_only_switch_off darkOrEvening
  have missing : (0.0 / 0.0 : Float).isNaN = true := by decide +kernel
  have inRain : darkOrEvening.holds ⟨0.0 / 0.0, 0.25, "rainy"⟩ = true := by decide +kernel
  have atEight : darkOrEvening.holds ⟨20, 0.0 / 0.0, "clear"⟩ = true := by decide +kernel
  have anyRain : Engine.rain.fires ⟨0.0 / 0.0, 0.0 / 0.0, "rain"⟩ = true := by decide +kernel
  have kept : ∀ leaf ∈ darkOrEvening.leaves,
      leaf.holds ⟨20, 0.75, "rainy"⟩ = true → leaf.holds ⟨21, 0.25, "rainy"⟩ = true := by
    decide +kernel
  refine ⟨by decide +kernel, ?_, ?_, ?_, ?_⟩
  · intro time
    exact (only.1 ⟨20, 0.25, "rainy"⟩ _ _ time 0 missing missing).1 inRain
  · intro light
    exact (only.1 ⟨20, 0.25, "clear"⟩ _ _ 0 light missing missing).2.1 atEight
  · intro time light
    have completes : (⟨time, light, "rain"⟩ : Sample).Completes ⟨0.0 / 0.0, 0.0 / 0.0, "rain"⟩ :=
      .of_eq_or_isNaN (.inl missing) (.inl missing) rfl
    exact only.2.1 _ _ completes _ anyRain
  · exact only.2.2 _ _ kept (by decide +kernel)

end Condition

end Lamplight
