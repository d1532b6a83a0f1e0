import Lamplight.Settings.Basic
import Lamplight.Toml.Json
import Lamplight.Toml.Reader

/-!
# Settings from TOML

A configuration is read from a TOML document.  What the document does not mention keeps its
standard value; what it mentions must have the right kind.  A section can also be written as
an array that lists the values of its settings in order.
-/

namespace Lamplight.Settings

/-- Why a document holds no configuration. -/
inductive ReadFault
  | toml (fault : Toml.Fault)
  /-- A setting whose value has the wrong kind. -/
  | setting (name : String)
  deriving Repr, DecidableEq

/-- What is wrong with a document, in words. -/
def ReadFault.message : ReadFault → String
  | .toml fault => fault.message
  | .setting name => s!"invalid value for {name}"

/-- The settings of a section, by name or in order. -/
inductive Section
  | named (entries : List (String × Toml.Value))
  | listed (values : List Toml.Value)

namespace Section

/-- The section that a value is.  A moment has no setting that anyone knows. -/
def ofValue? : Toml.Value → Option Section
  | .table entries => some (.named entries)
  | .array values => some (.listed values)
  | .moment moment => some (.named [(Toml.momentKey, .text moment.text)])
  | _ => none

/-- The value of a setting that has a name and a position. -/
def value? (parts : Section) (name : String) (position : Nat) : Option Toml.Value :=
  match parts with
  | .named entries => entries.lookup name
  | .listed values => values[position]?

/-- A setting that has a name and a position, or its standard value. -/
def read {α : Type} (parts : Section) (name : String) (position : Nat)
    (read? : Toml.Value → Option α) (standard : α) : Except ReadFault α :=
  match parts.value? name position with
  | none => .ok standard
  | some value =>
    match read? value with
    | some image => .ok image
    | none => .error (.setting name)

/-- A section within a section, or its standard settings. -/
def readSection {α : Type} (parts : Section) (name : String) (position : Nat)
    (read : Section → Except ReadFault α) (standard : α) : Except ReadFault α :=
  match parts.value? name position with
  | none => .ok standard
  | some value =>
    match ofValue? value with
    | some inner => read inner
    | none => .error (.setting name)

end Section

/-- A text. -/
def text? : Toml.Value → Option String
  | .text value => some value
  | _ => none

/-- A list of texts. -/
def texts? : Toml.Value → Option (List String)
  | .array items => items.mapM text?
  | _ => none

/-- A whole number below a bound that is not negative. -/
def natural? (bound : Nat) : Toml.Value → Option Nat
  | .integer value => if 0 ≤ value ∧ value < bound then some value.toNat else none
  | _ => none

/-- A word of 32 bits. -/
def word32? (value : Toml.Value) : Option UInt32 :=
  (natural? UInt32.size value).map UInt32.ofNat

/-- A word of 64 bits. -/
def word64? (value : Toml.Value) : Option UInt64 :=
  (natural? UInt64.size value).map UInt64.ofNat

/-- A number; whole numbers count. -/
def number? : Toml.Value → Option Float
  | .number value => some value
  | .integer value => some (Float.ofInt value)
  | _ => none

/-- The control points of a triangle; further numbers are passed over. -/
def triangle? : Toml.Value → Option Triangle
  | .array (left :: peak :: right :: _) => do
    return ⟨← number? left, ← number? peak, ← number? right⟩
  | _ => none

/-- Triangles by name. -/
def triangles? : Toml.Value → Option (Catalog Triangle)
  | .table entries => do
    let terms ← entries.mapM fun entry => (triangle? entry.2).map (entry.1, ·)
    return Catalog.ofList terms
  | _ => none

/-- A verbosity: its name, or a table with the name as its only key and nothing under it. -/
def verbosity? : Toml.Value → Option Verbosity
  | .text name => Verbosity.ofName? name
  | .table [(name, .table [])] => Verbosity.ofName? name
  | .table [(name, .array [])] => Verbosity.ofName? name
  | _ => none

/-- The path of a file. -/
def path? (value : Toml.Value) : Option Path := (text? value).map Path.mk

/-- The general settings. -/
def readGeneral (parts : Section) : Except ReadFault Verbosity :=
  parts.read "log_level" 0 verbosity? standard.verbosity

/-- The categories. -/
def readCategories (parts : Section) : Except ReadFault Categories := do
  let weather ← parts.read "weather" 0 texts? Categories.standard.weather
  let light ← parts.read "light" 1 triangles? Categories.standard.light
  let time ← parts.read "time" 2 triangles? Categories.standard.time
  return ⟨weather, light, time⟩

/-- The settings of the rules. -/
def readRulesPath (parts : Section) : Except ReadFault (Option Path) :=
  parts.read "path" 0 (fun value => (path? value).map some) none

/-- The settings of the simulator. -/
def readSimulation (parts : Section) : Except ReadFault SimulationSettings := do
  let standard := SimulationSettings.standard
  let startHour ← parts.read "start_hour" 0 word32? standard.startHour
  let hours ← parts.read "hours" 1 word32? standard.hours
  let tickMs ← parts.read "tick_ms" 2 word64? standard.tickMs
  let chance ← parts.read "weather_change_chance" 3 number? standard.chance
  let seed ← parts.read "seed" 4 (fun value => (word64? value).map some) standard.seed
  return ⟨startHour, hours, tickMs, chance, seed⟩

/-- The configuration of a document. -/
def ofSection (document : Section) : Except ReadFault Settings := do
  let verbosity ← document.readSection "general" 0 readGeneral standard.verbosity
  let categories ← document.readSection "fuzzy" 1 readCategories standard.categories
  let rulesPath ← document.readSection "rules" 2 readRulesPath standard.rulesPath
  let simulation ← document.readSection "simulation" 3 readSimulation standard.simulation
  return ⟨verbosity, categories, rulesPath, simulation⟩

/-- The configuration that a text spells. -/
def ofText (text : String) : Except ReadFault Settings :=
  match Toml.read text with
  | .error fault => .error (.toml fault)
  | .ok entries => ofSection (.named entries)

/-- The configuration that the content of a file spells. -/
def ofContent (path : Path) (content : String) : Except SettingsError Settings :=
  (ofText content).mapError fun fault => .malformed path fault.message

end Lamplight.Settings
