import Lamplight.Files.Basic
import Lamplight.Settings.Override
import Lamplight.Settings.Reader
import Lamplight.Settings.Writer

/-!
# Settings in files

Where configurations are looked for, and how they are loaded and saved.
-/

namespace Lamplight.Settings

/-- The home directory of a user: the one that a variable names, or else the one that the account
of the user has. -/
def home? (vars : Variables) (accountHome : Option Path) : Option Path :=
  ((vars "HOME").bind Path.ofText?).or accountHome

/-- The directory of the configurations of a user: an absolute path in a variable, or a fixed
place below the home directory. -/
def configHome? (vars : Variables) (accountHome : Option Path) : Option Path :=
  match (vars "XDG_CONFIG_HOME").map Path.mk with
  | some path =>
    if path.isAbsolute then some path else (home? vars accountHome).map (·.join ".config")
  | none => (home? vars accountHome).map (·.join ".config")

/-- The paths at which a configuration is looked for, in order.  They depend on variables and on
the home directory of the account, if there is one. -/
def searchPaths (vars : Variables) (accountHome : Option Path := none) : List Path :=
  [⟨"./fuzzylight.toml"⟩] ++
    ((configHome? vars accountHome).map fun path =>
      (path.join "fuzzylight").join "config.toml").toList ++
    ((home? vars accountHome).map fun path =>
      (path.join ".fuzzylight").join "config.toml").toList ++
    [⟨"/etc/fuzzylight/config.toml"⟩]

variable {m : Type → Type} [Monad m]

/-- The first of some paths at which something is. -/
def firstPresent (files : Files m) : List Path → m (Option Path)
  | [] => return none
  | path :: rest => do
    if ← files.contains path then return some path
    else firstPresent files rest

/-- The configuration that a file can be read as. -/
def ofRead (path : Path) : Except AccessError String → Except SettingsError Settings
  | .error error => .error (.inaccessible path error.message)
  | .ok content => ofContent path content

/-- The configuration in a file. -/
def loadFile (files : Files m) (path : Path) : m (Except SettingsError Settings) :=
  return ofRead path (← files.readText path)

/-- The configuration in the first file that is there, or the standard one. -/
def find (files : Files m) (vars : Variables) (accountHome : Option Path) :
    m (Except SettingsError Settings) := do
  match ← firstPresent files (searchPaths vars accountHome) with
  | none => return .ok standard
  | some path => loadFile files path

/-- The configuration with the settings that variables replace, if it can be used. -/
def prepared (vars : Variables) (settings : Settings) : Except SettingsError Settings :=
  (settings.overridden vars).validated

/-- Load the configuration to use. -/
def load (files : Files m) (vars : Variables) (accountHome : Option Path := none) :
    m (Except SettingsError Settings) :=
  return (← find files vars accountHome).bind (prepared vars)

/-- Write a configuration to a file.  The file is only touched when there is something to
write. -/
def save (files : Files m) (path : Path) (settings : Settings) :
    m (Except SettingsError Unit) := do
  match settings.toContent with
  | .error error => return .error error
  | .ok content =>
    return (← files.writeText path content).mapError (.inaccessible path ·.message)

/-- The lines of a configuration file with the standard settings and with comments. -/
def sampleLines : List String := [
  "# fuzzylight configuration file",
  "",
  "[general]",
  "# Logging level: quiet, normal, verbose, debug",
  "log_level = \"normal\"",
  "",
  "# Triangular category ranges as [left foot, peak, right foot].",
  "# Readings outside every range get degree 0 in all categories.",
  "[fuzzy]",
  "weather = [\"clear\", \"cloudy\", \"rainy\"]",
  "",
  "[fuzzy.light]",
  "dark = [-0.3, 0.0, 0.3]",
  "twilight = [0.2, 0.4, 0.6]",
  "light = [0.5, 1.0, 1.5]",
  "",
  "[fuzzy.time]",
  "night = [-3.0, 1.0, 6.0]",
  "morning = [5.0, 8.0, 11.0]",
  "day = [10.0, 14.0, 18.0]",
  "evening = [17.0, 21.0, 25.0]",
  "",
  "[rules]",
  "# Rule file, TOML ([[rule]] tables) or JSON (array of records)",
  "# path = \"rules/street_lighting.toml\"",
  "",
  "[simulation]",
  "# Hour the simulated clock starts at",
  "start_hour = 18",
  "# Simulated hours per run",
  "hours = 24",
  "# Real delay between ticks (milliseconds)",
  "tick_ms = 1000",
  "# Per-tick probability of a weather change",
  "weather_change_chance = 0.2",
  "# Fixed random seed (optional)",
  "# seed = 42"
]

/-- A configuration file with the standard settings and with comments. -/
def sampleDocument : String := String.join (sampleLines.map (· ++ "\n"))

end Lamplight.Settings
