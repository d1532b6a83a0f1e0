import Lamplight.Clamp

/-!
# Ambient light

How light it is outside at an hour of day and in some weather.
-/

namespace Lamplight

/-- Whether an hour belongs to the day. -/
def isDaytime (hour : Nat) : Bool := 6 ≤ hour && hour ≤ 18

/-- The light under a clear sky; the jitter, from minus one to one, spreads it around its
mean. -/
def clearLight (hour : Nat) (jitter : Float) : Float :=
  if isDaytime hour then 0.7 + 0.2 * jitter else 0.2 + 0.1 * jitter

/-- The light at an hour in some weather.  Rain takes more of it than clouds do, and neither
leaves less than a tenth. -/
def ambientLight (hour : Nat) (weather : String) (jitter : Float) : Float :=
  let base := clearLight hour (clamp (-1) 1 jitter)
  clamp 0 1 <|
    if weather = "rainy" then atLeast 0.1 (base - 0.3)
    else if weather = "cloudy" then atLeast 0.1 (base - 0.2)
    else base

end Lamplight
