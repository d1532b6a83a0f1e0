import Lamplight.Decimal.Unsigned
import Lamplight.Settings.Basic

/-!
# Overrides

Single settings can be replaced through named variables.  A variable whose value cannot be
used counts as absent.
-/

namespace Lamplight

/-- Variables with texts as values. -/
abbrev Variables := String → Option String

/-- The settings that variables can replace. -/
inductive Override
  | verbosity
  | rulesPath
  | hours
  | seed
  | tickMs
  deriving Repr, DecidableEq

/-- The variable of a setting. -/
def Override.name : Override → String
  | .verbosity => "FUZZYLIGHT_LOG_LEVEL"
  | .rulesPath => "FUZZYLIGHT_RULES"
  | .hours => "FUZZYLIGHT_SIM_HOURS"
  | .seed => "FUZZYLIGHT_SIM_SEED"
  | .tickMs => "FUZZYLIGHT_TICK_MS"

/-- The path that a text is; the empty text is none. -/
def Path.ofText? (text : String) : Option Path :=
  if text = "" then none else some ⟨text⟩

/-- The value that a variable gives to a setting, if it can be used. -/
def Variables.value? {α : Type} (vars : Variables) (override : Override)
    (read? : String → Option α) : Option α :=
  (vars override.name).bind read?

/-- The configuration with the settings that variables replace. -/
def Settings.overridden (settings : Settings) (vars : Variables) : Settings :=
  { settings with
    verbosity := (vars.value? .verbosity Verbosity.read?).getD settings.verbosity
    rulesPath := (vars.value? .rulesPath Path.ofText?).or settings.rulesPath
    simulation :=
      { settings.simulation with
        hours := (vars.value? .hours Decimal.readWord32?).getD settings.simulation.hours
        seed := (vars.value? .seed Decimal.readWord64?).or settings.simulation.seed
        tickMs :=
          (vars.value? .tickMs Decimal.readWord64?).getD settings.simulation.tickMs } }

end Lamplight
