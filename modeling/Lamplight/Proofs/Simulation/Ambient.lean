import Lamplight.Proofs.Decimal.Arithmetic
import Lamplight.Proofs.Membership.Bounds
import Lamplight.Simulation.Environment

/-!
# How light it is at most and at least

Whatever the hour and the weather, the ambient light lies between a tenth and nine tenths, for every
jitter that is a number (`ambientLight_between`).  The light under a clear sky is monotone in the
jitter, so its bounds are those at both ends of the jitter; what clouds and rain take off is limited
from below.  The jitter of an hour is a number, as it is made from a fraction of one
(`Random.isNaN_jitter`).
-/

namespace Lamplight

open Decimal

/-! ## A clear sky -/

/-- A spread around a mean grows with the jitter. -/
theorem spread_mono {mean spread lower higher : Float} (meanFinite : mean.isFinite = true)
    (spreadFinite : spread.isFinite = true) (nonneg : 0 ≤ spread)
    (lowFinite : (spread * -1).isFinite = true) (highFinite : (spread * 1).isFinite = true)
    (above : -1 ≤ lower) (ordered : lower ≤ higher) (below : higher ≤ 1) :
    mean + spread * lower ≤ mean + spread * higher := by
  have finite : ∀ {jitter : Float}, -1 ≤ jitter → jitter ≤ 1 →
      jitter.isFinite = true ∧ (spread * jitter).isFinite = true := by
    intro jitter above below
    have jitterFinite : jitter.isFinite = true :=
      isFinite_of_between (by decide) (by decide) above below
    exact ⟨jitterFinite, isFinite_of_between lowFinite highFinite
      (mul_le_mul_left spreadFinite (by decide) jitterFinite above nonneg)
      (mul_le_mul_left spreadFinite jitterFinite (by decide) below nonneg)⟩
  obtain ⟨lowerFinite, lowerSpread⟩ := finite above (number_le_trans ordered below)
  obtain ⟨higherFinite, higherSpread⟩ := finite (number_le_trans above ordered) below
  exact add_le_add_left meanFinite lowerSpread higherSpread
    (mul_le_mul_left spreadFinite lowerFinite higherFinite ordered nonneg)

theorem clearLight_mono (hour : Nat) {lower higher : Float} (above : -1 ≤ lower)
    (ordered : lower ≤ higher) (below : higher ≤ 1) :
    clearLight hour lower ≤ clearLight hour higher := by
  rw [clearLight, clearLight]
  split
  · exact spread_mono (by decide) (by decide) (by decide) (by decide) (by decide) above ordered
      below
  · exact spread_mono (by decide) (by decide) (by decide) (by decide) (by decide) above ordered
      below

theorem clearLight_between (hour : Nat) {jitter : Float} (above : -1 ≤ jitter)
    (below : jitter ≤ 1) : 0.1 ≤ clearLight hour jitter ∧ clearLight hour jitter ≤ 0.9 := by
  have darkest : 0.1 ≤ clearLight hour (-1) := by
    rw [clearLight]
    split
    · decide
    · decide
  have brightest : clearLight hour 1 ≤ 0.9 := by
    rw [clearLight]
    split
    · decide
    · decide
  exact ⟨number_le_trans darkest (clearLight_mono hour (by decide) above below),
    number_le_trans (clearLight_mono hour above below (by decide)) brightest⟩

/-! ## Clouds and rain -/

/-- What some weather leaves of the light under a clear sky. -/
def dimmed (weather : String) (light : Float) : Float :=
  if weather = "rainy" then atLeast 0.1 (light - 0.3)
  else if weather = "cloudy" then atLeast 0.1 (light - 0.2)
  else light

section Dimmed

variable {light : Float} (above : 0.1 ≤ light) (below : light ≤ 0.9)
include above below

/-- What is left when some light is taken off. -/
theorem reduced_between {loss : Float} (lossFinite : loss.isFinite = true)
    (limited : 0.9 - loss ≤ 0.9) :
    0.1 ≤ atLeast 0.1 (light - loss) ∧ atLeast 0.1 (light - loss) ≤ 0.9 := by
  have finite : light.isFinite = true := isFinite_of_between (by decide) (by decide) above below
  have high : light - loss ≤ 0.9 - loss := sub_le_sub_right lossFinite finite (by decide) below
  exact atLeast_between (by decide) (number_le_trans high limited)

theorem dimmed_between (weather : String) :
    0.1 ≤ dimmed weather light ∧ dimmed weather light ≤ 0.9 := by
  rw [dimmed]
  split
  · exact reduced_between above below (by decide) (by decide)
  · split
    · exact reduced_between above below (by decide) (by decide)
    · exact ⟨above, below⟩

end Dimmed

section Ambient

variable (hour : Nat) (weather : String) {jitter : Float} (isNumber : jitter.isNaN = false)
include isNumber

theorem jitter_between : -1 ≤ clamp (-1) 1 jitter ∧ clamp (-1) 1 jitter ≤ 1 :=
  clamp_between (by decide) isNumber

/-- Ambient light needs no clamping, but its jitter does. -/
theorem ambientLight_eq :
    ambientLight hour weather jitter =
      dimmed weather (clearLight hour (clamp (-1) 1 jitter)) := by
  obtain ⟨above, below⟩ := jitter_between isNumber
  have clear := clearLight_between hour above below
  have between := dimmed_between clear.1 clear.2 weather
  exact clamp_of_between (number_le_trans (by decide) between.1)
    (number_le_trans between.2 (by decide))

/-- Ambient light lies between a tenth and nine tenths. -/
theorem ambientLight_between :
    0.1 ≤ ambientLight hour weather jitter ∧ ambientLight hour weather jitter ≤ 0.9 := by
  obtain ⟨above, below⟩ := jitter_between isNumber
  have clear := clearLight_between hour above below
  rw [ambientLight_eq hour weather isNumber]
  exact dimmed_between clear.1 clear.2 weather

end Ambient

namespace Random

theorem fraction_between (word : UInt64) : 0 ≤ fraction word ∧ fraction word ≤ 1 := by
  have nearest : rank 9223372036854775808 = nearestRank (9223372036854775808 : Nat) :=
    rank_ofNat 9223372036854775808
  have code : nearestRank (9223372036854775808 : Nat) = 0x43E0000000000000 := by decide +kernel
  have finite : (9223372036854775808 : Float).isFinite = true := by
    rw [isFinite_iff_rank, nearest, code]
    decide
  have positive : (0 : Float) < 9223372036854775808 := by
    rw [lt_iff_rank_lt (by decide) (isNaN_eq_false finite), nearest, code]
    decide
  have half : (word >>> 1).toNat ≤ 9223372036854775808 := by
    have bound := word.toNat_lt
    rw [UInt64.toNat_shiftRight]
    show word.toNat >>> 1 ≤ _
    rw [Nat.shiftRight_eq_div_pow]
    omega
  have ordered : (word >>> 1).toFloat ≤ 9223372036854775808 :=
    le_of_nearest (isNaN_toFloat _) (isNaN_eq_false finite) (rank_toFloat _) nearest
      (Nat.cast_le.mpr half)
  exact quotient_between (isFinite_toFloat _) finite (zero_le_toFloat _) ordered positive

/-- Fractions made from words lie between zero and one, however the words are drawn. -/
theorem fractions_between (draw : Random → UInt64 × Random) {fractions : Random → Float × Random}
    (made : fractions = fun random =>
      match draw random with
      | (word, random) => (fraction word, random)) (random : Random) :
    0 ≤ (fractions random).1 ∧ (fractions random).1 ≤ 1 := by
  rw [made]
  dsimp only
  generalize draw random = drawn
  obtain ⟨word, random⟩ := drawn
  exact fraction_between word

/-- The definition of `unit`, stated of the function: of its values, checking it would draw words
until one is accepted. -/
theorem unit_eq : unit = fun random =>
    match random.nextWhere (fun word => fraction word < 1) attempts with
    | (word, random) => (fraction word, random) :=
  rfl

/-- A random fraction lies between zero and one. -/
theorem unit_between (random : Random) : 0 ≤ random.unit.1 ∧ random.unit.1 ≤ 1 :=
  fractions_between (nextWhere (fun word => fraction word < 1) attempts) unit_eq random

end Random

/-- The jitter that a fraction of one becomes is a number. -/
theorem isNaN_jitter {luck : Float} (above : 0 ≤ luck) (below : luck ≤ 1) :
    (luck * 2 - 1).isNaN = false := by
  have finite : luck.isFinite = true := isFinite_of_between (by decide) (by decide) above below
  have low : 0 * 2 ≤ luck * 2 :=
    mul_le_mul_right (by decide) (by decide) finite above (by decide)
  have high : luck * 2 ≤ 1 * 2 :=
    mul_le_mul_right (by decide) finite (by decide) below (by decide)
  exact isNaN_difference (isFinite_of_between (by decide) (by decide) low high) (by decide)

end Lamplight
