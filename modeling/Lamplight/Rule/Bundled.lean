import Lamplight.Rule.Basic

/-!
# The bundled rules

The rules for street lights that are in use when no others are configured, and the document that
they come from.
-/

namespace Lamplight.Rule

/-- The lines of the document with the bundled rules. -/
def bundledLines : List String := [
  "# Street lighting rule set",
  "#",
  "# Lower priority value wins when several rules fire.",
  "# Conditions may use time (hour of day), light (0..1) and weather.",
  "",
  "[[rule]]",
  "name = \"storm_darkness\"",
  "description = \"Rain with low ambient light needs full output\"",
  "condition = 'weather = \"rainy\" AND light < 0.5'",
  "priority = 1",
  "action_name = \"full_brightness\"",
  "intensity = 100",
  "",
  "[[rule]]",
  "name = \"deep_night\"",
  "description = \"Late night, streets mostly empty\"",
  "condition = \"time BETWEEN 0 AND 5\"",
  "priority = 2",
  "action_name = \"energy_saving\"",
  "intensity = 40",
  "",
  "[[rule]]",
  "name = \"evening_dark\"",
  "description = \"Evening hours after sunset\"",
  "condition = \"time BETWEEN 18 AND 23 AND light < 0.4\"",
  "priority = 3",
  "action_name = \"full_brightness\"",
  "intensity = 90",
  "",
  "[[rule]]",
  "name = \"overcast_dusk\"",
  "description = \"Clouds dim the light before nightfall\"",
  "condition = 'weather = \"cloudy\" AND light < 0.4'",
  "priority = 4",
  "action_name = \"medium_brightness\"",
  "intensity = 60",
  "",
  "[[rule]]",
  "name = \"twilight\"",
  "description = \"Light level between day and night\"",
  "condition = \"light BETWEEN 0.2 AND 0.45\"",
  "priority = 5",
  "action_name = \"low_brightness\"",
  "intensity = 30",
  "",
  "[[rule]]",
  "name = \"daylight\"",
  "description = \"Enough natural light\"",
  "condition = \"time BETWEEN 6 AND 17 AND light >= 0.45\"",
  "priority = 6",
  "action_name = \"lights_off\"",
  "intensity = 0"
]

/-- The document with the bundled rules. -/
def bundledDocument : String := String.join (bundledLines.map (· ++ "\n"))

/-- A rule whose intensity is a whole number of hundredths. -/
def ofPercent (name description condition : String) (priority : Int) (action : String)
    (percent : Int) : Rule :=
  ⟨name, description, condition, priority, action, some (.integer percent)⟩

/-- The rules of the document in the order in which they are applied. -/
def bundled : List Rule := [
  ofPercent "storm_darkness" "Rain with low ambient light needs full output"
    "weather = \"rainy\" AND light < 0.5" 1 "full_brightness" 100,
  ofPercent "deep_night" "Late night, streets mostly empty"
    "time BETWEEN 0 AND 5" 2 "energy_saving" 40,
  ofPercent "evening_dark" "Evening hours after sunset"
    "time BETWEEN 18 AND 23 AND light < 0.4" 3 "full_brightness" 90,
  ofPercent "overcast_dusk" "Clouds dim the light before nightfall"
    "weather = \"cloudy\" AND light < 0.4" 4 "medium_brightness" 60,
  ofPercent "twilight" "Light level between day and night"
    "light BETWEEN 0.2 AND 0.45" 5 "low_brightness" 30,
  ofPercent "daylight" "Enough natural light"
    "time BETWEEN 6 AND 17 AND light >= 0.45" 6 "lights_off" 0
]

end Lamplight.Rule
