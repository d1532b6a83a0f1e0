import Lamplight.Settings.Basic
import Lamplight.Toml.Writer

/-!
# Settings as TOML

A configuration is written as a TOML document in which all settings have a value, except those
that are absent.  Whole numbers of a document are signed, so that a word of 64 bits may be too
large for it.
-/

namespace Lamplight.Settings

/-- Why a configuration cannot be written. -/
inductive WriteFault
  /-- A word that is too large for a document. -/
  | tooLarge (word : UInt64)
  deriving Repr, DecidableEq

/-- Why a configuration cannot be written, in words. -/
def WriteFault.message : WriteFault → String
  | .tooLarge _ => "out-of-range value for u64 type"

/-- A word of 64 bits as a value. -/
def ofWord64 (word : UInt64) : Except WriteFault Toml.Value :=
  if word.toNat < Decimal.signBit then .ok (.integer word.toNat) else .error (.tooLarge word)

/-- A word of 32 bits as a value. -/
def ofWord32 (word : UInt32) : Toml.Value := .integer word.toNat

/-- A triangle as a value. -/
def ofTriangle (triangle : Triangle) : Toml.Value :=
  .array [.number triangle.left, .number triangle.peak, .number triangle.right]

/-- The triangles of a channel as entries. -/
def ofTriangles (terms : Catalog Triangle) : List (String × Toml.Value) :=
  terms.entries.map fun entry => (entry.1, ofTriangle entry.2)

/-- An entry for a setting that may be absent. -/
def optionalEntry (key : String) (value : Option Toml.Value) : List (String × Toml.Value) :=
  value.toList.map (key, ·)

/-- The settings of the simulator as entries. -/
def simulationEntries (settings : SimulationSettings) :
    Except WriteFault (List (String × Toml.Value)) := do
  let tickMs ← ofWord64 settings.tickMs
  let seed ← settings.seed.mapM ofWord64
  return [
    ("start_hour", ofWord32 settings.startHour),
    ("hours", ofWord32 settings.hours),
    ("tick_ms", tickMs),
    ("weather_change_chance", .number settings.chance)] ++ optionalEntry "seed" seed

/-- The parts of the document of a configuration. -/
def parts (settings : Settings) : Except WriteFault (List Toml.Part) := do
  let simulation ← simulationEntries settings.simulation
  return [
    ⟨["general"], [("log_level", .text settings.verbosity.name)]⟩,
    ⟨["fuzzy"], [("weather", .array (settings.categories.weather.map .text))]⟩,
    ⟨["fuzzy", "light"], ofTriangles settings.categories.light⟩,
    ⟨["fuzzy", "time"], ofTriangles settings.categories.time⟩,
    ⟨["rules"], optionalEntry "path" (settings.rulesPath.map fun path => .text path.text)⟩,
    ⟨["simulation"], simulation⟩]

/-- The text of a configuration. -/
def toText (settings : Settings) : Except WriteFault String := do
  return Toml.documentText (← settings.parts)

/-- The text of a configuration, for a file. -/
def toContent (settings : Settings) : Except SettingsError String :=
  settings.toText.mapError fun fault => .unwritable fault.message

end Lamplight.Settings
