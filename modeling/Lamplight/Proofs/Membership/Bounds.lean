import Lamplight.Proofs.Decimal.Undefined
import Lamplight.Proofs.Membership.Maps

/-!
# Degrees lie between zero and one

Every degree of a usable triangle lies between zero and one, except where a side of the triangle is
wider than the largest finite number: there both the distance from the foot of the side and its
width overflow, and their quotient is no number.  Categories keep the degrees of their triangles.
-/

namespace Lamplight

open Decimal

/-! ## Clamping -/

section Clamp

variable {low high number other : Float}

/-- What is clamped stays the number that it is, or none. -/
theorem isNaN_clamp (ordered : low ≤ high) (number : Float) :
    (clamp low high number).isNaN = number.isNaN := by
  obtain ⟨lowNumber, highNumber⟩ := isNumber_of_le ordered
  rw [clamp]
  split
  · next below => rw [lowNumber, (isNumber_of_lt below).1]
  · split
    · next above => rw [highNumber, (isNumber_of_lt above).2]
    · rfl

theorem clamp_between (ordered : low ≤ high) (isNumber : number.isNaN = false) :
    low ≤ clamp low high number ∧ clamp low high number ≤ high := by
  obtain ⟨lowNumber, highNumber⟩ := isNumber_of_le ordered
  have lowSelf : low ≤ low := number_le_refl lowNumber
  have highSelf : high ≤ high := number_le_refl highNumber
  rw [clamp]
  split
  · exact ⟨lowSelf, ordered⟩
  · next notBelow =>
    split
    · exact ⟨ordered, highSelf⟩
    · next notAbove =>
      exact ⟨(not_lt_iff_le isNumber lowNumber).mp notBelow,
        (not_lt_iff_le highNumber isNumber).mp notAbove⟩

/-- What lies between two bounds is left as it is. -/
theorem clamp_of_between (above : low ≤ number) (below : number ≤ high) :
    clamp low high number = number := by
  obtain ⟨lowNumber, isNumber⟩ := isNumber_of_le above
  have notBelow := (not_lt_iff_le isNumber lowNumber).mpr above
  have notAbove := (not_lt_iff_le (isNumber_of_le below).2 isNumber).mpr below
  rw [clamp, if_neg notBelow, if_neg notAbove]

theorem clamp_mono (bounds : low ≤ high) (ordered : number ≤ other) :
    clamp low high number ≤ clamp low high other := by
  obtain ⟨isNumber, otherNumber⟩ := isNumber_of_le ordered
  obtain ⟨lowNumber, highNumber⟩ := isNumber_of_le bounds
  obtain ⟨otherAbove, otherBelow⟩ := clamp_between bounds otherNumber
  rw [clamp]
  split
  · exact otherAbove
  · next notBelow =>
    have above := (not_lt_iff_le isNumber lowNumber).mp notBelow
    have otherNotBelow := (not_lt_iff_le otherNumber lowNumber).mpr (number_le_trans above ordered)
    rw [clamp, if_neg otherNotBelow]
    split
    · next past =>
      rw [if_pos (number_lt_of_lt_of_le past ordered)]
      exact number_le_refl highNumber
    · next notPast =>
      split
      · exact (not_lt_iff_le highNumber isNumber).mp notPast
      · exact ordered

theorem atLeast_between (bounded : low ≤ high) (below : number ≤ high) :
    low ≤ atLeast low number ∧ atLeast low number ≤ high := by
  rw [atLeast]
  split
  · next above => exact ⟨above, below⟩
  · exact ⟨number_le_refl (isNumber_of_le bounded).1, bounded⟩

theorem atLeast_mono (bound : low.isNaN = false) (ordered : number ≤ other) :
    atLeast low number ≤ atLeast low other := by
  rw [atLeast, atLeast]
  split
  · next above =>
    rw [if_pos (number_le_trans above ordered)]
    exact ordered
  · split
    · next otherAbove => exact otherAbove
    · exact number_le_refl bound

end Clamp

/-- A number from zero to one. -/
def InUnit (number : Float) : Prop := 0 ≤ number ∧ number ≤ 1

instance (number : Float) : Decidable (InUnit number) := inferInstanceAs (Decidable (_ ∧ _))

theorem inUnit_clamp_iff {number : Float} : InUnit (clamp 0 1 number) ↔ number.isNaN = false := by
  have ordered : (0 : Float) ≤ 1 := by decide
  constructor
  · intro within
    exact (isNaN_clamp ordered number).symm.trans (isNumber_of_le within.1).2
  · intro isNumber
    exact clamp_between ordered isNumber

/-! ## Triangles -/

/-- The height on a side of a triangle: the quotient of two distances from the foot of the side. -/
theorem isNaN_quotient_iff {distance width : Float} (isNumber : distance.isNaN = false)
    (upwards : width.isInf = true → 0 < width) :
    (if 0 < width then distance / width else 0).isNaN = true ↔
      distance.isInf = true ∧ width.isInf = true := by
  split
  · next positive => exact isNaN_div_iff isNumber positive
  · next flat => exact iff_of_false (by decide) fun both => flat (upwards both.2)

namespace Triangle

variable {triangle : Triangle}

/-- A number is inside the triangle, on a side along which both the distance to the number and the
distance to the peak are past the largest finite number. -/
def Overflows (triangle : Triangle) (number : Float) : Prop :=
  (triangle.left < number ∧ number < triangle.right) ∧
    if number ≤ triangle.peak then
      (number - triangle.left).isInf = true ∧ (triangle.peak - triangle.left).isInf = true
    else
      (triangle.right - number).isInf = true ∧ (triangle.right - triangle.peak).isInf = true

instance (triangle : Triangle) (number : Float) : Decidable (triangle.Overflows number) :=
  inferInstanceAs <| Decidable <|
    (triangle.left < number ∧ number < triangle.right) ∧
      if number ≤ triangle.peak then
        (number - triangle.left).isInf = true ∧ (triangle.peak - triangle.left).isInf = true
      else
        (triangle.right - number).isInf = true ∧ (triangle.right - triangle.peak).isInf = true

/-- Triangles are usable when their points are finite and in ascending order. -/
theorem fault?_eq_none_iff : triangle.fault? = none ↔
    (triangle.left.isFinite = true ∧ triangle.peak.isFinite = true ∧
      triangle.right.isFinite = true) ∧
    triangle.left ≤ triangle.peak ∧ triangle.peak ≤ triangle.right := by
  have finite : (triangle.left.isFinite && triangle.peak.isFinite && triangle.right.isFinite) =
      true ↔ triangle.left.isFinite = true ∧ triangle.peak.isFinite = true ∧
        triangle.right.isFinite = true := by
    rw [Bool.and_eq_true, Bool.and_eq_true, and_assoc]
  rw [fault?, ← finite]
  split
  · next faulty =>
    rw [Bool.not_eq_true'] at faulty
    simp [faulty]
  · next sound =>
    rw [Bool.not_eq_true', Bool.not_eq_false] at sound
    obtain ⟨leftFinite, peakFinite, rightFinite⟩ := finite.mp sound
    rw [← not_lt_iff_le (isNaN_eq_false peakFinite) (isNaN_eq_false leftFinite),
      ← not_lt_iff_le (isNaN_eq_false rightFinite) (isNaN_eq_false peakFinite), ← not_or]
    simp [sound]

/-- The degree is zero by itself where the number is not strictly between the feet. -/
theorem outside_iff (leftNumber : triangle.left.isNaN = false)
    (rightNumber : triangle.right.isNaN = false) (number : Float) :
    (number.isNaN || number ≤ triangle.left || triangle.right ≤ number) = true ↔
      ¬(triangle.left < number ∧ number < triangle.right) := by
  cases isNumber : number.isNaN with
  | true =>
    refine iff_of_true rfl ?_
    intro between
    cases isNumber.symm.trans (isNumber_of_lt between.1).2
  | false =>
    rw [Bool.false_or, Bool.or_eq_true, decide_eq_true_iff, decide_eq_true_iff,
      ← not_lt_iff_le leftNumber isNumber, ← not_lt_iff_le isNumber rightNumber, not_and_or]

/-- The degree of a number is no number exactly where its side overflows. -/
theorem isNaN_degree_iff (usable : triangle.fault? = none) (number : Float) :
    (triangle.degree number).isNaN = true ↔ triangle.Overflows number := by
  obtain ⟨⟨leftFinite, peakFinite, rightFinite⟩, leftPeak, peakRight⟩ :=
    fault?_eq_none_iff.mp usable
  have outside := outside_iff (isNaN_eq_false leftFinite) (isNaN_eq_false rightFinite) number
  by_cases between : triangle.left < number ∧ number < triangle.right
  · have isNumber := (isNumber_of_lt between.1).2
    have afterLeft : triangle.left ≤ number := number_le_of_lt between.1
    have beforeRight : number ≤ triangle.right := number_le_of_lt between.2
    have finite : number.isFinite = true :=
      isFinite_of_between leftFinite rightFinite afterLeft beforeRight
    rw [degree, if_neg (outside.not.mpr (not_not.mpr between)), isNaN_clamp (by decide), Overflows,
      and_iff_right between]
    split
    · exact isNaN_quotient_iff (isNaN_sub leftFinite finite afterLeft)
        (pos_of_isInf_sub leftFinite peakFinite leftPeak)
    · exact isNaN_quotient_iff (isNaN_sub finite rightFinite beforeRight)
        (pos_of_isInf_sub peakFinite rightFinite peakRight)
  · rw [degree, if_pos (outside.mpr between)]
    exact iff_of_false (by decide) fun overflows => between overflows.1

/-- A degree is between zero and one unless its side overflows. -/
theorem inUnit_degree_iff (usable : triangle.fault? = none) (number : Float) :
    InUnit (triangle.degree number) ↔ ¬triangle.Overflows number := by
  rw [← isNaN_degree_iff usable number, Bool.not_eq_true]
  constructor
  · intro within
    exact (isNumber_of_le within.1).2
  · intro isNumber
    rw [degree] at isNumber ⊢
    split
    · exact ⟨by decide, by decide⟩
    · next inside =>
      rw [if_neg inside, isNaN_clamp (by decide)] at isNumber
      exact inUnit_clamp_iff.mpr isNumber

/-- A triangle whose sides have finite widths overflows nowhere. -/
theorem not_overflows (leftWidth : (triangle.peak - triangle.left).isFinite = true)
    (rightWidth : (triangle.right - triangle.peak).isFinite = true) (number : Float) :
    ¬triangle.Overflows number := by
  rintro ⟨-, overflow⟩
  split at overflow
  · exact Bool.false_ne_true ((isFinite_eq_false overflow.2).symm.trans leftWidth)
  · exact Bool.false_ne_true ((isFinite_eq_false overflow.2).symm.trans rightWidth)

end Triangle

/-! ## Categories -/

/-- A degree of a channel is that of one of its triangles. -/
theorem Variable.mem_fuzzify {channel : Variable} {number : Float} {entry : String × Float}
    (member : entry ∈ (channel.fuzzify number).entries) :
    ∃ triangle, (entry.1, triangle) ∈ channel.terms.entries ∧
      entry.2 = clamp 0 1 (triangle.degree number) := by
  rw [fuzzify_eq] at member
  obtain ⟨term, present, rfl⟩ := List.mem_map.mp member
  exact ⟨term.2, present, rfl⟩

namespace Categories

variable {categories : Categories}

/-- Usable categories have usable triangles. -/
theorem triangle_usable {channel : Reading} {terms : Catalog Triangle}
    (usable : termsFault? channel terms = none) {name : String} {triangle : Triangle}
    (present : (name, triangle) ∈ terms.entries) : triangle.fault? = none := by
  rw [termsFault?] at usable
  split at usable
  · cases usable
  · rw [List.findSome?_eq_none_iff] at usable
    exact Option.map_eq_none_iff.mp (usable (name, triangle) present)

/-- A degree in a channel of usable categories belongs to one of its triangles, and it is between
zero and one unless a side of that triangle overflows. -/
theorem fuzzify_inUnit_iff {channel : Reading} {terms : Catalog Triangle}
    (usable : termsFault? channel terms = none) {number : Float} {entry : String × Float}
    (member : entry ∈ (Variable.fuzzify ⟨channel.name, terms⟩ number).entries) :
    ∃ triangle, (entry.1, triangle) ∈ terms.entries ∧
      (InUnit entry.2 ↔ ¬triangle.Overflows number) := by
  obtain ⟨triangle, present, equal⟩ := Variable.mem_fuzzify member
  refine ⟨triangle, present, ?_⟩
  rw [equal, inUnit_clamp_iff, ← Bool.not_eq_true,
    Triangle.isNaN_degree_iff (triangle_usable usable present)]

/-- A degree of the weather is zero or one. -/
theorem fuzzifyWeather_inUnit (categories : Categories) {weather : String}
    {entry : String × Float} (member : entry ∈ (categories.fuzzifyWeather weather).entries) :
    InUnit entry.2 := by
  rw [entries_fuzzifyWeather] at member
  obtain ⟨category, -, rfl⟩ := List.mem_map.mp member
  simp only [weatherDegree]
  split
  · decide
  · decide

theorem fault?_eq_none (usable : categories.fault? = none) :
    termsFault? .light categories.light = none ∧ termsFault? .time categories.time = none ∧
      weatherFault? categories.weather = none := by
  rw [fault?, Option.or_eq_none_iff, Option.or_eq_none_iff] at usable
  exact usable

/-- Where degrees are numbers from zero to one.  For a usable triangle they are, except where its
side overflows, and there they are none; no side of finite width overflows.  All degrees in the maps
of usable categories are such degrees, and those of the weather are zero or one. -/
theorem degrees_between_zero_and_one (triangle : Triangle) (number : Float)
    (categories : Categories) (sample : Sample) :
    (triangle.fault? = none →
      (InUnit (triangle.degree number) ↔ ¬triangle.Overflows number) ∧
      ((triangle.degree number).isNaN = true ↔ triangle.Overflows number)) ∧
    ((triangle.peak - triangle.left).isFinite = true →
      (triangle.right - triangle.peak).isFinite = true → ¬triangle.Overflows number) ∧
    (categories.fault? = none →
      (∀ entry ∈ (categories.fuzzify sample).light.entries, ∃ triangle,
        (entry.1, triangle) ∈ categories.light.entries ∧
          (InUnit entry.2 ↔ ¬triangle.Overflows sample.light)) ∧
      (∀ entry ∈ (categories.fuzzify sample).time.entries, ∃ triangle,
        (entry.1, triangle) ∈ categories.time.entries ∧
          (InUnit entry.2 ↔ ¬triangle.Overflows sample.time)) ∧
      ∀ entry ∈ (categories.fuzzify sample).weather.entries, InUnit entry.2) := by
  refine ⟨?_, ?_, ?_⟩
  · intro usable
    exact ⟨Triangle.inUnit_degree_iff usable number, Triangle.isNaN_degree_iff usable number⟩
  · intro leftWidth rightWidth
    exact Triangle.not_overflows leftWidth rightWidth number
  · intro usable
    obtain ⟨light, time, -⟩ := fault?_eq_none usable
    refine ⟨?_, ?_, ?_⟩
    · intro entry member
      exact fuzzify_inUnit_iff light member
    · intro entry member
      exact fuzzify_inUnit_iff time member
    · intro entry member
      exact fuzzifyWeather_inUnit categories member

/-- A triangle whose left side is wider than the largest finite number. -/
def wide : Triangle := ⟨-1.7e308, 1.7e308, 1.75e308⟩

/-- Standard categories with a wide one for the light. -/
def widened : Categories := { standard with light := Catalog.ofList [("wide", wide)] }

/-- The degree of the peak of a wide triangle is no number, and the map of a sample holds it. -/
theorem degree_of_wide_peak_undefined :
    (wide.fault? = none ∧ (wide.degree wide.peak).isNaN = true ∧ ¬InUnit (wide.degree wide.peak)) ∧
    widened.fault?.isNone = true ∧
      ¬∀ entry ∈ (widened.fuzzify ⟨6, wide.peak, "clear"⟩).light.entries, InUnit entry.2 := by
  decide +kernel

/-- Near the right foot of the wide triangle, and for rain, degrees are as they should be. -/
theorem degrees_of_wide_triangle :
    (wide.fault? = none ∧ ¬wide.Overflows 1.72e308 ∧ InUnit (wide.degree 1.72e308)) ∧
    (standard.fault? = none ∧
      ∀ entry ∈ (standard.fuzzify ⟨13.5, 0.25, "rainy"⟩).weather.entries, InUnit entry.2) := by
  have wideUsable : wide.fault? = none := by decide +kernel
  have inside : ¬wide.Overflows 1.72e308 := by decide +kernel
  have usable : standard.fault? = none := Option.isNone_iff_eq_none.mp (by decide +kernel)
  obtain ⟨ofTriangle, -, ofMaps⟩ :=
    degrees_between_zero_and_one wide 1.72e308 standard ⟨13.5, 0.25, "rainy"⟩
  exact ⟨⟨wideUsable, inside, (ofTriangle wideUsable).1.mpr inside⟩, usable, (ofMaps usable).2.2⟩

end Categories

end Lamplight
