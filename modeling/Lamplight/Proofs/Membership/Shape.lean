import Lamplight.Proofs.Decimal.Distance
import Lamplight.Proofs.Membership.Bounds

/-!
# The shape of a triangle

Over a triangle of finite width, degrees rise from the left foot to one at the peak and fall from
there to the right foot (`Triangle.degree_rises_and_falls`).  Between the feet a degree is the
quotient of two distances from the foot of its side.  Rounding keeps the order of distances and of
their quotients, and it takes no distance of different numbers to zero, so that a side with a number
on it has a width above zero.
-/

namespace Lamplight

open Decimal

/-- A height on a side: clamping the quotient of a distance and a width that is not smaller changes
nothing. -/
theorem clamp_height {distance width : Float} (distanceFinite : distance.isFinite = true)
    (widthFinite : width.isFinite = true) (nonneg : 0 ≤ distance) (ordered : distance ≤ width)
    (positive : 0 < width) :
    clamp 0 1 (if 0 < width then distance / width else 0) = distance / width := by
  obtain ⟨above, below⟩ := quotient_between distanceFinite widthFinite nonneg ordered positive
  rw [if_pos positive, clamp_of_between above below]

namespace Triangle

/-- Finite points in ascending order, the outer ones of which are a finite distance apart. -/
structure Narrow (triangle : Triangle) : Prop where
  left : triangle.left.isFinite = true
  peak : triangle.peak.isFinite = true
  right : triangle.right.isFinite = true
  rising : triangle.left ≤ triangle.peak
  falling : triangle.peak ≤ triangle.right
  width : (triangle.right - triangle.left).isFinite = true

namespace Narrow

variable {triangle : Triangle} {number lower higher : Float} (narrow : triangle.Narrow)
include narrow

theorem usable : triangle.fault? = none :=
  fault?_eq_none_iff.mpr ⟨⟨narrow.left, narrow.peak, narrow.right⟩, narrow.rising, narrow.falling⟩

theorem outside_iff (number : Float) :
    (number.isNaN || number ≤ triangle.left || triangle.right ≤ number) = true ↔
      ¬(triangle.left < number ∧ number < triangle.right) :=
  Triangle.outside_iff (isNaN_eq_false narrow.left) (isNaN_eq_false narrow.right) number

/-! ### Distances from the feet -/

theorem isFinite_of_le (above : triangle.left ≤ number) (below : number ≤ triangle.right) :
    number.isFinite = true :=
  isFinite_of_between narrow.left narrow.right above below

theorem isFinite_sub_left (above : triangle.left ≤ number) (below : number ≤ triangle.right) :
    (number - triangle.left).isFinite = true :=
  isFinite_sub_of_between narrow.left narrow.right narrow.width
    (number_le_refl (isNaN_eq_false narrow.left)) above below

theorem isFinite_right_sub (above : triangle.left ≤ number) (below : number ≤ triangle.right) :
    (triangle.right - number).isFinite = true :=
  isFinite_sub_of_between narrow.left narrow.right narrow.width above below
    (number_le_refl (isNaN_eq_false narrow.right))

/-! ### Both sides -/

/-- On the left side a degree is a quotient of distances from the left foot. -/
theorem degree_of_rising (above : triangle.left < number) (below : number < triangle.right)
    (rising : number ≤ triangle.peak) :
    0 < triangle.peak - triangle.left ∧
      triangle.degree number = (number - triangle.left) / (triangle.peak - triangle.left) := by
  have afterLeft := number_le_of_lt above
  have beforeRight := number_le_of_lt below
  have finite := narrow.isFinite_of_le afterLeft beforeRight
  have positive : 0 < triangle.peak - triangle.left :=
    zero_lt_sub narrow.left narrow.peak (number_lt_of_lt_of_le above rising)
  have inside := (narrow.outside_iff number).not.mpr (not_not.mpr ⟨above, below⟩)
  rw [degree, if_neg inside, if_pos rising]
  exact ⟨positive, clamp_height (narrow.isFinite_sub_left afterLeft beforeRight)
    (narrow.isFinite_sub_left narrow.rising narrow.falling)
    (zero_le_sub narrow.left finite afterLeft)
    (sub_le_sub_right narrow.left finite narrow.peak rising) positive⟩

/-- On the right side it is a quotient of distances from the right foot. -/
theorem degree_of_falling (falling : triangle.peak < number) (below : number < triangle.right) :
    0 < triangle.right - triangle.peak ∧
      triangle.degree number = (triangle.right - number) / (triangle.right - triangle.peak) := by
  have above := number_lt_of_le_of_lt narrow.rising falling
  have afterLeft := number_le_of_lt above
  have beforeRight := number_le_of_lt below
  have finite := narrow.isFinite_of_le afterLeft beforeRight
  have positive : 0 < triangle.right - triangle.peak :=
    zero_lt_sub narrow.peak narrow.right (number_lt_of_lt_of_le falling beforeRight)
  have inside := (narrow.outside_iff number).not.mpr (not_not.mpr ⟨above, below⟩)
  have behind := (not_le_iff_lt (isNaN_eq_false finite) (isNaN_eq_false narrow.peak)).mpr falling
  rw [degree, if_neg inside, if_neg behind]
  exact ⟨positive, clamp_height (narrow.isFinite_right_sub afterLeft beforeRight)
    (narrow.isFinite_right_sub narrow.rising narrow.falling)
    (zero_le_sub finite narrow.right beforeRight)
    (sub_le_sub_left narrow.peak finite narrow.right (number_le_of_lt falling)) positive⟩

/-- Every degree is a number from zero to one. -/
theorem degree_inUnit (number : Float) : InUnit (triangle.degree number) :=
  (inUnit_degree_iff narrow.usable number).mpr
    (not_overflows (narrow.isFinite_sub_left narrow.rising narrow.falling)
      (narrow.isFinite_right_sub narrow.rising narrow.falling) number)

/-- Degrees rise up to the peak. -/
theorem degree_mono (above : triangle.left < lower) (ordered : lower ≤ higher)
    (rising : higher ≤ triangle.peak) (below : higher < triangle.right) :
    triangle.degree lower ≤ triangle.degree higher := by
  have lowerBelow := number_lt_of_le_of_lt ordered below
  have higherAbove := number_lt_of_lt_of_le above ordered
  have lowerBetween : triangle.left ≤ lower ∧ lower ≤ triangle.right :=
    ⟨number_le_of_lt above, number_le_of_lt lowerBelow⟩
  have higherBetween : triangle.left ≤ higher ∧ higher ≤ triangle.right :=
    ⟨number_le_of_lt higherAbove, number_le_of_lt below⟩
  obtain ⟨positive, higherDegree⟩ := narrow.degree_of_rising higherAbove below rising
  rw [(narrow.degree_of_rising above lowerBelow (number_le_trans ordered rising)).2, higherDegree]
  have distances : lower - triangle.left ≤ higher - triangle.left :=
    sub_le_sub_right narrow.left (narrow.isFinite_of_le lowerBetween.1 lowerBetween.2)
      (narrow.isFinite_of_le higherBetween.1 higherBetween.2) ordered
  exact div_le_div_right (narrow.isFinite_sub_left narrow.rising narrow.falling)
    (narrow.isFinite_sub_left lowerBetween.1 lowerBetween.2)
    (narrow.isFinite_sub_left higherBetween.1 higherBetween.2) distances positive

/-- Degrees fall behind the peak. -/
theorem degree_anti (falling : triangle.peak < lower) (ordered : lower ≤ higher)
    (below : higher < triangle.right) : triangle.degree higher ≤ triangle.degree lower := by
  have lowerBelow := number_lt_of_le_of_lt ordered below
  have higherFalling := number_lt_of_lt_of_le falling ordered
  have lowerBetween : triangle.left ≤ lower ∧ lower ≤ triangle.right :=
    ⟨number_le_of_lt (number_lt_of_le_of_lt narrow.rising falling), number_le_of_lt lowerBelow⟩
  have higherBetween : triangle.left ≤ higher ∧ higher ≤ triangle.right :=
    ⟨number_le_trans lowerBetween.1 ordered, number_le_of_lt below⟩
  obtain ⟨positive, higherDegree⟩ := narrow.degree_of_falling higherFalling below
  rw [(narrow.degree_of_falling falling lowerBelow).2, higherDegree]
  have distances : triangle.right - higher ≤ triangle.right - lower :=
    sub_le_sub_left (narrow.isFinite_of_le lowerBetween.1 lowerBetween.2)
      (narrow.isFinite_of_le higherBetween.1 higherBetween.2) narrow.right ordered
  exact div_le_div_right (narrow.isFinite_right_sub narrow.rising narrow.falling)
    (narrow.isFinite_right_sub higherBetween.1 higherBetween.2)
    (narrow.isFinite_right_sub lowerBetween.1 lowerBetween.2) distances positive

/-! ### The peak -/

theorem degree_peak (rising : triangle.left < triangle.peak)
    (falling : triangle.peak < triangle.right) : triangle.degree triangle.peak = 1 := by
  have peakSelf := number_le_refl (isNaN_eq_false narrow.peak)
  obtain ⟨positive, equal⟩ := narrow.degree_of_rising rising falling peakSelf
  rw [equal]
  exact div_self_eq_one (narrow.isFinite_sub_left narrow.rising narrow.falling) positive

/-- A number on the left side that is not below the peak has the degree one.  It may differ from the
peak, as zero and minus zero do. -/
theorem degree_of_peak_le (rising : triangle.left < triangle.peak)
    (behind : triangle.peak ≤ number) (before : number ≤ triangle.peak)
    (below : number < triangle.right) : triangle.degree number = 1 := by
  have least := narrow.degree_mono rising behind before below
  rw [narrow.degree_peak rising (number_lt_of_le_of_lt behind below)] at least
  have most := (narrow.degree_inUnit number).2
  have isNumber := (isNumber_of_le least).2
  rw [le_iff_rank_le (by decide) isNumber] at least
  rw [le_iff_rank_le isNumber (by decide)] at most
  have one : 0 < rank 1 := by decide
  exact eq_of_rank_eq (Int.le_antisymm most least) (by omega)

/-- Where there is a left side, degrees fall from the peak on: those behind it are at most one. -/
theorem degree_anti_of_peak_le (rising : triangle.left < triangle.peak)
    (behind : triangle.peak ≤ lower) (ordered : lower ≤ higher)
    (below : higher < triangle.right) : triangle.degree higher ≤ triangle.degree lower := by
  by_cases before : lower ≤ triangle.peak
  · rw [narrow.degree_of_peak_le rising behind before (number_lt_of_le_of_lt ordered below)]
    exact (narrow.degree_inUnit higher).2
  · obtain ⟨peakNumber, lowerNumber⟩ := isNumber_of_le behind
    exact narrow.degree_anti ((not_le_iff_lt lowerNumber peakNumber).mp before) ordered below

end Narrow

/-- The shape of a triangle whose points are finite, in ascending order and not too far apart.
Outside of its feet, and for no number, the degree is zero.  Between them, the width of the side
that a number is on is above zero, and the degree is the quotient of the distances of the number and
of the peak from the foot of that side.  Degrees rise up to the peak and fall behind it, from the
peak on where there is a left side; a peak between the feet has the degree one, the highest of
all. -/
theorem degree_rises_and_falls (triangle : Triangle) (narrow : triangle.Narrow) :
    (∀ number, number.isNaN = true ∨ number ≤ triangle.left ∨ triangle.right ≤ number →
      triangle.degree number = 0) ∧
    (∀ number, triangle.left < number → number < triangle.right →
      (number ≤ triangle.peak → 0 < triangle.peak - triangle.left ∧
        triangle.degree number = (number - triangle.left) / (triangle.peak - triangle.left)) ∧
      (triangle.peak < number → 0 < triangle.right - triangle.peak ∧
        triangle.degree number = (triangle.right - number) / (triangle.right - triangle.peak))) ∧
    (∀ lower higher, triangle.left < lower → lower ≤ higher → higher ≤ triangle.peak →
      higher < triangle.right → triangle.degree lower ≤ triangle.degree higher) ∧
    (∀ lower higher, triangle.peak < lower ∨ triangle.left < triangle.peak ∧ triangle.peak ≤ lower →
      lower ≤ higher → higher < triangle.right →
      triangle.degree higher ≤ triangle.degree lower) ∧
    (triangle.left < triangle.peak → triangle.peak < triangle.right →
      (∀ number, (number == triangle.peak) = true → triangle.degree number = 1) ∧
      ∀ number, triangle.degree number ≤ triangle.degree triangle.peak) := by
  refine ⟨?_, ?_, ?_, ?_, ?_⟩
  · intro number outside
    have outside : (number.isNaN || number ≤ triangle.left || triangle.right ≤ number) = true := by
      simpa only [Bool.or_eq_true, decide_eq_true_iff, or_assoc] using outside
    rw [degree, if_pos outside]
  · intro number above below
    exact ⟨narrow.degree_of_rising above below,
      fun falling => narrow.degree_of_falling falling below⟩
  · intro lower higher above ordered rising below
    exact narrow.degree_mono above ordered rising below
  · rintro lower higher (falling | ⟨rising, behind⟩) ordered below
    · exact narrow.degree_anti falling ordered below
    · exact narrow.degree_anti_of_peak_le rising behind ordered below
  · intro rising falling
    constructor
    · intro number atPeak
      obtain ⟨isNumber, peakNumber⟩ := isNumber_of_beq atPeak
      have equal := (beq_iff_rank_eq isNumber peakNumber).mp atPeak
      have behind := (le_iff_rank_le peakNumber isNumber).mpr (Int.le_of_eq equal.symm)
      have before := (le_iff_rank_le isNumber peakNumber).mpr (Int.le_of_eq equal)
      exact narrow.degree_of_peak_le rising behind before (number_lt_of_le_of_lt before falling)
    · intro number
      rw [narrow.degree_peak rising falling]
      exact (narrow.degree_inUnit number).2

/-- A triangle whose left side is as steep as can be: between its foot and its peak there is no
number. -/
def steep : Triangle := ⟨-5e-324, 0, 1⟩

/-- The peak of the steep triangle is zero, and so minus zero has the degree one as well; degrees
fall from there to the right foot. -/
theorem degree_rises_and_falls_steep : steep.Narrow ∧ steep.degree (-0.0) = 1 ∧
    steep.degree 2 = 0 ∧ 0 < steep.peak - steep.left ∧
      steep.degree 0.75 ≤ steep.degree 0.25 := by
  have narrow : steep.Narrow :=
    ⟨by decide +kernel, by decide +kernel, by decide +kernel, by decide +kernel, by decide +kernel,
      by decide +kernel⟩
  obtain ⟨outside, sides, -, falls, peak⟩ := degree_rises_and_falls steep narrow
  have rising : steep.left < steep.peak := by decide +kernel
  have falling : steep.peak < steep.right := by decide +kernel
  refine ⟨narrow, (peak rising falling).1 (-0.0) (by decide +kernel),
    outside 2 (.inr (.inr (by decide +kernel))),
    ((sides 0 rising falling).1 (by decide +kernel)).1,
    falls 0.25 0.75 (.inr ⟨rising, by decide +kernel⟩) (by decide +kernel) (by decide +kernel)⟩

end Triangle

end Lamplight
