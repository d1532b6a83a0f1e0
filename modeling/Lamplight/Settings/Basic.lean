import Lamplight.Files.Path
import Lamplight.Membership.Categories
import Lamplight.Settings.Verbosity

/-!
# Settings

All that can be configured, and what makes a configuration unusable.
-/

namespace Lamplight

/-- The settings of the simulator. -/
structure SimulationSettings where
  /-- The hour of day at which the simulated clock starts. -/
  startHour : UInt32
  /-- How many hours a run takes. -/
  hours : UInt32
  /-- The real delay between two hours, in milliseconds. -/
  tickMs : UInt64
  /-- How likely the weather is chosen anew in an hour. -/
  chance : Float
  /-- The seed of the random numbers; without one, every run has another. -/
  seed : Option UInt64
  deriving Repr, BEq

/-- A configuration. -/
structure Settings where
  verbosity : Verbosity
  categories : Categories
  /-- The file of the rules; the bundled rules are used without one. -/
  rulesPath : Option Path
  simulation : SimulationSettings

namespace SimulationSettings

/-- The settings in use when nothing else is configured. -/
def standard : SimulationSettings := ⟨18, 24, 1000, 0.2, none⟩

end SimulationSettings

namespace Settings

/-- The configuration in use when nothing else is configured. -/
def standard : Settings := ⟨.normal, .standard, none, .standard⟩

instance : Inhabited Settings := ⟨standard⟩

/-- Whether two configurations are the same.  The order of light and time categories does not
count, and a number that is none differs from itself. -/
def agrees (left right : Settings) : Bool :=
  left.verbosity == right.verbosity && left.categories.agrees right.categories &&
    left.rulesPath == right.rulesPath && left.simulation == right.simulation

/-- What makes a configuration unusable. -/
inductive Fault
  | categories (fault : Categories.Fault)
  /-- There is no such hour of day. -/
  | startHour (hour : UInt32)
  /-- A likelihood that is none. -/
  | chance (value : Float)

/-- What is wrong with a configuration, in words. -/
def Fault.message : Fault → String
  | .categories fault => fault.message
  | .startHour hour => s!"simulation.start_hour must be 0-23, got {hour}"
  | .chance value =>
    s!"simulation.weather_change_chance must be within [0, 1], got {Decimal.plain.text value}"

/-- What makes the settings of the simulator unusable. -/
def simulationFault? (settings : SimulationSettings) : Option Fault :=
  if 23 < settings.startHour then some (.startHour settings.startHour)
  else if 0 ≤ settings.chance && settings.chance ≤ 1 then none
  else some (.chance settings.chance)

/-- The first thing that makes a configuration unusable. -/
def fault? (settings : Settings) : Option Fault :=
  (settings.categories.fault?.map .categories).or (simulationFault? settings.simulation)

end Settings

/-- Why there is no configuration, or why it was not kept. -/
inductive SettingsError
  /-- A file cannot be read or written. -/
  | inaccessible (path : Path) (reason : String)
  /-- A file holds no configuration. -/
  | malformed (path : Path) (reason : String)
  /-- A value that is out of range or does not go with others. -/
  | invalid (reason : String)
  /-- A configuration that cannot be put into words. -/
  | unwritable (reason : String)
  deriving Repr, DecidableEq

/-- An error in words. -/
def SettingsError.message : SettingsError → String
  | .inaccessible path reason => s!"IO error reading {path.text}: {reason}"
  | .malformed path reason => s!"Parse error in {path.text}: {reason}"
  | .invalid reason => s!"Invalid value: {reason}"
  | .unwritable reason => s!"Serialization error: {reason}"

/-- A configuration if it can be used. -/
def Settings.validated (settings : Settings) : Except SettingsError Settings :=
  match settings.fault? with
  | some fault => .error (.invalid fault.message)
  | none => .ok settings

end Lamplight
