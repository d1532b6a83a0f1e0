import Lamplight.Proofs.Decimal.Distance
import Lamplight.Proofs.Simulation.Ambient

/-!
# When it is lighter outside

Ambient light grows with the jitter, clouds leave less of it than other weather and rain leaves less
than clouds, and in the same weather the darkest hour of the day is lighter than the brightest hour
of the night (`ambientLight_ordered`).  The light in some weather is monotone in the light under a
clear sky, so that comparing day and night comes down to the ends of their jitters.
-/

namespace Lamplight

open Decimal

/-! ## Weather -/

section Dimmed

variable {light brighter : Float}

theorem dimmed_mono (weather : String) (lightFinite : light.isFinite = true)
    (brighterFinite : brighter.isFinite = true) (ordered : light ≤ brighter) :
    dimmed weather light ≤ dimmed weather brighter := by
  rw [dimmed, dimmed]
  split
  · exact atLeast_mono (by decide) (sub_le_sub_right (by decide) lightFinite brighterFinite ordered)
  · split
    · exact atLeast_mono (by decide)
        (sub_le_sub_right (by decide) lightFinite brighterFinite ordered)
    · exact ordered

theorem dimmed_rainy_le_cloudy (finite : light.isFinite = true) :
    dimmed "rainy" light ≤ dimmed "cloudy" light := by
  have loss : light - 0.3 ≤ light - 0.2 :=
    sub_le_sub_left (by decide) (by decide) finite (by decide)
  exact atLeast_mono (by decide) loss

theorem dimmed_cloudy_le (finite : light.isFinite = true) (above : 0.1 ≤ light) {weather : String}
    (noRain : weather ≠ "rainy") (noClouds : weather ≠ "cloudy") :
    dimmed "cloudy" light ≤ dimmed weather light := by
  have loss : light - 0.2 ≤ light := sub_le_of_nonneg finite (by decide) (by decide)
  have left : dimmed weather light = light := by rw [dimmed, if_neg noRain, if_neg noClouds]
  rw [left]
  exact (atLeast_between above loss).2

/-- In the same weather, the dimmest light of the day is more than the brightest of the night. -/
theorem dimmed_night_lt_day (weather : String) :
    dimmed weather (0.2 + 0.1 * 1) < dimmed weather (0.7 + 0.2 * -1) := by
  rw [dimmed, dimmed]
  split
  · decide +kernel
  · split
    · decide +kernel
    · decide

end Dimmed

/-! ## Hours -/

theorem clearLight_of_day {hour : Nat} (day : isDaytime hour = true) (jitter : Float) :
    clearLight hour jitter = 0.7 + 0.2 * jitter := by
  rw [clearLight, if_pos day]

theorem clearLight_of_night {hour : Nat} (night : isDaytime hour = false) (jitter : Float) :
    clearLight hour jitter = 0.2 + 0.1 * jitter := by
  rw [clearLight, night, if_neg Bool.false_ne_true]

section Jitters

variable {jitter other : Float}

theorem isFinite_clearLight (hour : Nat) (above : -1 ≤ jitter) (below : jitter ≤ 1) :
    (clearLight hour jitter).isFinite = true := by
  have between := clearLight_between hour above below
  exact isFinite_of_between (by decide) (by decide) between.1 between.2

theorem ambientLight_mono (hour : Nat) (weather : String) (ordered : jitter ≤ other) :
    ambientLight hour weather jitter ≤ ambientLight hour weather other := by
  obtain ⟨isNumber, otherNumber⟩ := isNumber_of_le ordered
  obtain ⟨above, below⟩ := jitter_between isNumber
  obtain ⟨otherAbove, otherBelow⟩ := jitter_between otherNumber
  rw [ambientLight_eq hour weather isNumber, ambientLight_eq hour weather otherNumber]
  exact dimmed_mono weather (isFinite_clearLight hour above below)
    (isFinite_clearLight hour otherAbove otherBelow)
    (clearLight_mono hour above (clamp_mono (by decide) ordered) otherBelow)

/-- Every hour of the day is lighter than every hour of the night in the same weather. -/
theorem ambientLight_night_lt_day (weather : String) {night day : Nat}
    (isNight : isDaytime night = false) (isDay : isDaytime day = true)
    (isNumber : jitter.isNaN = false) (otherNumber : other.isNaN = false) :
    ambientLight night weather jitter < ambientLight day weather other := by
  obtain ⟨above, below⟩ := jitter_between isNumber
  obtain ⟨otherAbove, otherBelow⟩ := jitter_between otherNumber
  rw [ambientLight_eq night weather isNumber, ambientLight_eq day weather otherNumber]
  have nightLight : dimmed weather (clearLight night (clamp (-1) 1 jitter)) ≤
      dimmed weather (clearLight night 1) :=
    dimmed_mono weather (isFinite_clearLight night above below)
      (isFinite_clearLight night (by decide) (by decide))
      (clearLight_mono night above below (by decide))
  have dayLight : dimmed weather (clearLight day (-1)) ≤
      dimmed weather (clearLight day (clamp (-1) 1 other)) :=
    dimmed_mono weather (isFinite_clearLight day (by decide) (by decide))
      (isFinite_clearLight day otherAbove otherBelow)
      (clearLight_mono day (by decide) otherAbove otherBelow)
  rw [clearLight_of_night isNight 1] at nightLight
  rw [clearLight_of_day isDay (-1)] at dayLight
  exact number_lt_of_lt_of_le
    (number_lt_of_le_of_lt nightLight (dimmed_night_lt_day weather)) dayLight

end Jitters

/-- How ambient light compares, for jitters that are numbers, however large.  It lies between a
tenth and nine tenths, grows with the jitter, and is least in rain and most in weather without
clouds; and from six to eighteen o'clock it is lighter than at any other hour in the same weather.
-/
theorem ambientLight_ordered :
    (∀ (hour : Nat) (weather : String) (jitter : Float), jitter.isNaN = false →
      0.1 ≤ ambientLight hour weather jitter ∧ ambientLight hour weather jitter ≤ 0.9) ∧
    (∀ (hour : Nat) (weather : String) (jitter other : Float), jitter ≤ other →
      ambientLight hour weather jitter ≤ ambientLight hour weather other) ∧
    (∀ (hour : Nat) (jitter : Float), jitter.isNaN = false →
      ambientLight hour "rainy" jitter ≤ ambientLight hour "cloudy" jitter ∧
        ∀ weather, weather ≠ "rainy" → weather ≠ "cloudy" →
          ambientLight hour "cloudy" jitter ≤ ambientLight hour weather jitter) ∧
    ∀ (weather : String) (night day : Nat) (jitter other : Float),
      ¬(6 ≤ night ∧ night ≤ 18) → 6 ≤ day ∧ day ≤ 18 →
        jitter.isNaN = false → other.isNaN = false →
          ambientLight night weather jitter < ambientLight day weather other := by
  refine ⟨?_, ?_, ?_, ?_⟩
  · intro hour weather jitter isNumber
    exact ambientLight_between hour weather isNumber
  · intro hour weather jitter other ordered
    exact ambientLight_mono hour weather ordered
  · intro hour jitter isNumber
    obtain ⟨above, below⟩ := jitter_between isNumber
    have clear := clearLight_between hour above below
    have finite := isFinite_clearLight hour above below
    simp only [ambientLight_eq hour _ isNumber]
    exact ⟨dimmed_rainy_le_cloudy finite, fun weather => dimmed_cloudy_le finite clear.1⟩
  · intro weather night day jitter other isNight isDay isNumber otherNumber
    exact ambientLight_night_lt_day weather (by simpa [isDaytime] using isNight)
      (by simpa [isDaytime] using isDay) isNumber otherNumber

/-- At the last hour of a cloudy day it is lighter than an hour later, whatever the jitters:
infinite ones count as the widest. -/
theorem ambientLight_ordered_at_dusk :
    ambientLight 19 "cloudy" (1.0 / 0.0) < ambientLight 18 "cloudy" (-1.0 / 0.0) ∧
      ambientLight 18 "rainy" 0.5 ≤ ambientLight 18 "cloudy" 0.5 ∧
      ambientLight 19 "fog" (-3) ≤ ambientLight 19 "fog" (1.0 / 0.0) ∧
      0.1 ≤ ambientLight 19 "rainy" (-1.0 / 0.0) := by
  obtain ⟨between, grows, weathers, hours⟩ := ambientLight_ordered
  exact ⟨hours "cloudy" 19 18 _ _ (by decide) (by decide) (by decide) (by decide),
    (weathers 18 0.5 (by decide)).1, grows 19 "fog" _ _ (by decide),
    (between 19 "rainy" _ (by decide)).1⟩

end Lamplight
