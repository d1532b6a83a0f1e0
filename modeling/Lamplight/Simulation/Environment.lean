import Lamplight.Sample
import Lamplight.Simulation.Ambient
import Lamplight.Simulation.Random

/-!
# The simulated environment

A clock, the weather and a generator of random numbers.  `Environment.advance` moves them on
by one hour; what rules are in use has no part in it.
-/

namespace Lamplight

/-- What governs the weather. -/
structure Climate where
  /-- The weather categories to choose from. -/
  weathers : List String
  /-- How likely the weather is chosen anew in an hour. -/
  chance : Float

/-- The state of the simulated world. -/
structure Environment where
  hour : Fin 24
  weather : String
  random : Random
  deriving Repr, DecidableEq

/-- What is observed in one hour. -/
structure Observation where
  hour : Fin 24
  weather : String
  light : Float
  /-- Whether the weather differs from that of the hour before. -/
  changed : Bool
  deriving Repr, DecidableEq

/-- The readings of an observation. -/
def Observation.sample (observation : Observation) : Sample where
  time := observation.hour.val.toFloat
  light := observation.light
  weather := observation.weather

/-- The weather before anything is known. -/
def Climate.initialWeather (climate : Climate) : String :=
  climate.weathers.headD "clear"

/-- The next weather and whether it is another one.  Most of the time it stays as it is. -/
def Climate.nextWeather (climate : Climate) (weather : String) (random : Random) :
    String × Random :=
  if climate.weathers.isEmpty then (weather, random)
  else
    let (luck, random) := random.unit
    if luck < climate.chance then
      let (index, random) := random.below climate.weathers.length
      (climate.weathers.getD index weather, random)
    else (weather, random)

namespace Environment

/-- The environment at the start of a simulation. -/
def start (climate : Climate) (hour : Nat) (seed : UInt64) : Environment where
  hour := Fin.ofNat 24 hour
  weather := climate.initialWeather
  random := ⟨seed⟩

/-- The environment one hour later, and what is observed then. -/
def advance (climate : Climate) (environment : Environment) : Observation × Environment :=
  let hour := environment.hour + 1
  let drawn := climate.nextWeather environment.weather environment.random
  let luck := drawn.2.unit
  let light := ambientLight hour.val drawn.1 (luck.1 * 2 - 1)
  (⟨hour, drawn.1, light, drawn.1 ≠ environment.weather⟩, ⟨hour, drawn.1, luck.2⟩)

end Environment

end Lamplight
