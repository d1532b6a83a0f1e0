import Lamplight.Proofs.Decimal.Arithmetic

/-!
# Distances of numbers

Finite numbers are whole multiples of the smallest positive one, so that different ones are never
too close for a distance above zero (`zero_lt_sub`).  Distances within an interval are finite when
the width of the interval is, and a distance divided by itself is one.
-/

namespace Lamplight.Decimal

open Float.Model Float.Model.UnpackedFloat

/-- Finite numbers are whole multiples of the smallest positive one. -/
theorem exactOf_eq_multiple {number : UnpackedFloat} (canonical : Canonical number)
    (finite : number.isFinite = true) :
    ∃ count : Int, exactOf number = count * 2 ^ (-1074 : Int) := by
  cases number with
  | notANumber => cases finite
  | infinity sign => cases finite
  | zero sign => exact ⟨0, by rw [Int.cast_zero, zero_mul]; rfl⟩
  | finite sign mantissa exponent positive =>
    exact ⟨_, (apply_decreaseExponent sign mantissa canonical.lowest).symm⟩

/-- The smallest positive number has the first rank above zero. -/
theorem nearestRank_smallest : nearestRank (2 ^ (-1074 : Int)) = 1 := by
  have smallest : exactValue (Float.ofBits 1) = (1 : Int) * 2 ^ (-1074 : Int) := rfl
  rw [Int.cast_one, one_mul] at smallest
  rw [← smallest, ← rank_eq_nearestRank (by decide)]
  decide

section Numbers

variable {left right number constant : Float}

section Finite

variable (leftFinite : left.isFinite = true) (rightFinite : right.isFinite = true)
include leftFinite rightFinite

/-- Different numbers are at least as far apart as the smallest positive one is from zero. -/
theorem smallest_le_distance (less : left < right) :
    2 ^ (-1074 : Int) ≤ exactValue right - exactValue left := by
  obtain ⟨leftCount, leftMultiple⟩ :=
    exactOf_eq_multiple (canonical_unpack (isNaN_eq_false leftFinite)).1 leftFinite
  obtain ⟨rightCount, rightMultiple⟩ :=
    exactOf_eq_multiple (canonical_unpack (isNaN_eq_false rightFinite)).1 rightFinite
  have unit : (0 : ℚ) < 2 ^ (-1074 : Int) := by positivity
  have below : exactValue left < exactValue right := by
    rw [← not_le, ← le_iff_exactValue_le rightFinite leftFinite,
      not_le_iff_lt (isNaN_eq_false rightFinite) (isNaN_eq_false leftFinite)]
    exact less
  rw [exactValue, exactValue, leftMultiple, rightMultiple] at below ⊢
  have counts : leftCount + 1 ≤ rightCount := by
    exact_mod_cast (mul_lt_mul_iff_left₀ unit).mp below
  have more : (1 : ℚ) ≤ rightCount - leftCount := by
    rw [le_sub_iff_add_le']
    exact_mod_cast counts
  rw [← sub_mul]
  exact le_mul_of_one_le_left unit.le more

/-- Underflow is gradual: no distance of different numbers is rounded to zero. -/
theorem zero_lt_sub (less : left < right) : 0 < right - left := by
  have apart := nearestRank_mono (smallest_le_distance leftFinite rightFinite less)
  rw [nearestRank_smallest, ← rank_sub rightFinite leftFinite] at apart
  rw [lt_iff_rank_lt (by decide) (isNaN_difference rightFinite leftFinite)]
  exact Int.lt_of_lt_of_le (by decide) apart

theorem zero_le_sub (ordered : left ≤ right) : 0 ≤ right - left := by
  rw [le_iff_exactValue_le leftFinite rightFinite] at ordered
  have zero : rank 0 = nearestRank 0 := by decide
  exact le_of_nearest (by decide) (isNaN_difference rightFinite leftFinite) zero
    (rank_sub rightFinite leftFinite) (sub_nonneg.mpr ordered)

theorem sub_le_sub_left (constantFinite : constant.isFinite = true) (ordered : left ≤ right) :
    constant - right ≤ constant - left := by
  rw [le_iff_exactValue_le leftFinite rightFinite] at ordered
  exact le_of_nearest (isNaN_difference constantFinite rightFinite)
    (isNaN_difference constantFinite leftFinite) (rank_sub constantFinite rightFinite)
    (rank_sub constantFinite leftFinite) (by gcongr)

/-- No distance within an interval is larger than its width. -/
theorem isFinite_sub_of_between {lower upper : Float} (width : (right - left).isFinite = true)
    (above : left ≤ lower) (ordered : lower ≤ upper) (below : upper ≤ right) :
    (upper - lower).isFinite = true := by
  have lowerFinite : lower.isFinite = true :=
    isFinite_of_between leftFinite rightFinite above (number_le_trans ordered below)
  have upperFinite : upper.isFinite = true :=
    isFinite_of_between leftFinite rightFinite (number_le_trans above ordered) below
  have nonneg : 0 ≤ upper - lower := zero_le_sub lowerFinite upperFinite ordered
  have first : upper - lower ≤ right - lower :=
    sub_le_sub_right lowerFinite upperFinite rightFinite below
  have second : right - lower ≤ right - left :=
    sub_le_sub_left leftFinite lowerFinite rightFinite above
  exact isFinite_of_between (by decide) width nonneg (number_le_trans first second)

end Finite

/-- What is left when something is taken off is not more. -/
theorem sub_le_of_nonneg (finite : number.isFinite = true)
    (constantFinite : constant.isFinite = true) (nonneg : 0 ≤ constant) :
    number - constant ≤ number := by
  rw [le_iff_exactValue_le (by decide) constantFinite, exactValue_zero] at nonneg
  exact le_of_nearest (isNaN_difference finite constantFinite) (isNaN_eq_false finite)
    (rank_sub finite constantFinite) (rank_eq_nearestRank finite) (sub_le_self _ nonneg)

theorem div_self_eq_one (finite : number.isFinite = true) (positive : 0 < number) :
    number / number = 1 := by
  have nonzero := ne_of_gt (exactValue_pos finite positive)
  have nearest := rank_div finite finite nonzero
  have one : rank 1 = nearestRank 1 := by decide
  rw [div_self nonzero, ← one] at nearest
  exact eq_of_rank_eq nearest (by rw [nearest]; decide)

end Numbers

end Lamplight.Decimal
