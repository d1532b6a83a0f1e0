/-!
# Sensor samples

A sample holds the three readings taken at one moment: the hour of day, the ambient
light level and the weather category.
-/

namespace Lamplight

/-- One of the three readings of a sample. -/
inductive Reading
  | time
  | light
  | weather
  deriving Repr, DecidableEq

/-- The name by which conditions and settings refer to a reading. -/
def Reading.name : Reading → String
  | .time => "time"
  | .light => "light"
  | .weather => "weather"

/-- The reading of a name. -/
def Reading.ofName? (name : String) : Option Reading :=
  if name = "time" then some .time
  else if name = "light" then some .light
  else if name = "weather" then some .weather
  else none

@[simp] theorem Reading.ofName?_name (reading : Reading) :
    Reading.ofName? reading.name = some reading := by
  cases reading <;> simp [Reading.ofName?, Reading.name]

/-- Whether a reading is a number; the weather is a word. -/
def Reading.isNumeric : Reading → Bool
  | .weather => false
  | _ => true

/-- The readings taken at one moment. -/
structure Sample where
  /-- The hour of day. -/
  time : Float
  /-- The ambient light level. -/
  light : Float
  /-- The weather category. -/
  weather : String
  deriving Repr, DecidableEq

end Lamplight
