import Mathlib.Logic.Function.Basic
import Lamplight.Proofs.Decimal.Unsigned
import Lamplight.Settings.Override

/-!
# Variables in layers

A setting has the value of its own variable in the last layer in which that can be used, and without
one it stays as it was.  What variables cannot replace stays in any case, so that they make no
configuration usable or unusable.  Main statement: `Settings.layered_overrides`.
-/

namespace Lamplight

/-! ## Settings by name -/

/-- What the values of a setting are. -/
abbrev Override.Value : Override → Type
  | .verbosity => Verbosity
  | .rulesPath => Path
  | .hours => UInt32
  | .seed => UInt64
  | .tickMs => UInt64

/-- The value that a text gives to a setting, if it can be used. -/
def Override.read? : (override : Override) → String → Option override.Value
  | .verbosity => Verbosity.read?
  | .rulesPath => Path.ofText?
  | .hours => Decimal.readWord32?
  | .seed => Decimal.readWord64?
  | .tickMs => Decimal.readWord64?

theorem Override.name_injective : Function.Injective Override.name := by
  intro override other same
  revert same
  cases override <;> cases other <;> decide

/-- The value that variables have for a setting, if there is one that can be used. -/
def Variables.usable? (vars : Variables) (override : Override) : Option override.Value :=
  vars.value? override override.read?

/-! ## Texts that can be used -/

/-- How a verbosity is written in lower case: its name, the first letter of it, or its place. -/
def Verbosity.spellings (verbosity : Verbosity) : List String :=
  [verbosity.name, String.ofList (verbosity.name.toList.take 1), toString verbosity.rank]

/-- The texts that stand for a value: those of a verbosity in either case, the digits of a word with
or without a plus sign, and any path but the empty one. -/
def Override.Spelled : (override : Override) → String → override.Value → Prop
  | .verbosity, text, value => text.map Char.toLower ∈ value.spellings
  | .rulesPath, text, path => text = path.text ∧ text ≠ ""
  | .hours, text, word => Decimal.Spells text.toList word.toNat
  | .seed, text, word => Decimal.Spells text.toList word.toNat
  | .tickMs, text, word => Decimal.Spells text.toList word.toNat

theorem Verbosity.read?_eq_some_iff {text : String} {verbosity : Verbosity} :
    read? text = some verbosity ↔ text.map Char.toLower ∈ verbosity.spellings := by
  have quiet : spellings .quiet = ["quiet", "q", "0"] := by decide
  have normal : spellings .normal = ["normal", "n", "1"] := by decide
  have verbose : spellings .verbose = ["verbose", "v", "2"] := by decide
  have debug : spellings .debug = ["debug", "d", "3"] := by decide
  rw [read?]
  generalize text.map Char.toLower = word
  cases verbosity <;>
    simp only [quiet, normal, verbose, debug, List.mem_cons, List.not_mem_nil, or_false] <;> grind

theorem Path.ofText?_eq_some_iff {text : String} {path : Path} :
    ofText? text = some path ↔ text = path.text ∧ text ≠ "" := by
  obtain ⟨pathText⟩ := path
  rw [ofText?, Option.ite_none_left_eq_some, Option.some_inj, mk.injEq, and_comm]

theorem Override.read?_eq_some_iff {override : Override} {text : String} {value : override.Value} :
    override.read? text = some value ↔ override.Spelled text value := by
  cases override with
  | verbosity => exact Verbosity.read?_eq_some_iff
  | rulesPath => exact Path.ofText?_eq_some_iff
  | hours => exact Decimal.readWord32?_eq_some_iff
  | seed => exact Decimal.readWord64?_eq_some_iff
  | tickMs => exact Decimal.readWord64?_eq_some_iff

theorem Variables.usable?_eq_some_iff {vars : Variables} {override : Override}
    {value : override.Value} :
    vars.usable? override = some value ↔
      ∃ text, vars override.name = some text ∧ override.Spelled text value := by
  rw [usable?, value?, Option.bind_eq_some_iff]
  simp only [Override.read?_eq_some_iff]

namespace Settings

/-- The value of a setting that variables can replace, if it is set. -/
def value? (settings : Settings) : (override : Override) → Option override.Value
  | .verbosity => some settings.verbosity
  | .rulesPath => settings.rulesPath
  | .hours => some settings.simulation.hours
  | .seed => settings.simulation.seed
  | .tickMs => some settings.simulation.tickMs

/-- Two configurations with the same of what variables cannot replace. -/
structure SameOtherwise (settings other : Settings) : Prop where
  categories : settings.categories = other.categories
  startHour : settings.simulation.startHour = other.simulation.startHour
  chance : settings.simulation.chance = other.simulation.chance

namespace SameOtherwise

variable {settings other : Settings} (same : settings.SameOtherwise other)
include same

/-- A configuration is made up of the settings that variables can replace and the others. -/
theorem eq_of_values (values : ∀ override, settings.value? override = other.value? override) :
    settings = other := by
  obtain ⟨categories, startHour, chance⟩ := same
  have verbosity := Option.some_inj.mp (values .verbosity)
  have hours := Option.some_inj.mp (values .hours)
  have tickMs := Option.some_inj.mp (values .tickMs)
  have rulesPath := values .rulesPath
  have seed := values .seed
  obtain ⟨_, _, _, ⟨_, _, _, _, _⟩⟩ := settings
  obtain ⟨_, _, _, ⟨_, _, _, _, _⟩⟩ := other
  simp only at *
  subst categories startHour chance verbosity hours tickMs rulesPath seed
  rfl

theorem trans {further : Settings} (next : other.SameOtherwise further) :
    settings.SameOtherwise further :=
  ⟨same.categories.trans next.categories, same.startHour.trans next.startHour,
    same.chance.trans next.chance⟩

theorem fault?_eq : settings.fault? = other.fault? := by
  rw [fault?, fault?, simulationFault?, simulationFault?, same.categories, same.startHour,
    same.chance]

end SameOtherwise

/-! ## One layer -/

variable (settings : Settings) (vars : Variables)

/-- A usable value of its variable replaces a setting. -/
theorem value?_overridden (override : Override) :
    (settings.overridden vars).value? override =
      (vars.usable? override).or (settings.value? override) := by
  cases override with
  | verbosity => exact Option.or_some.symm
  | rulesPath => rfl
  | hours => exact Option.or_some.symm
  | seed => rfl
  | tickMs => exact Option.or_some.symm

theorem sameOtherwise_overridden : (settings.overridden vars).SameOtherwise settings :=
  ⟨rfl, rfl, rfl⟩

/-- Only the variable of a setting decides on its value. -/
theorem value?_overridden_congr {vars other : Variables} {override : Override}
    (same : other override.name = vars override.name) :
    (settings.overridden other).value? override = (settings.overridden vars).value? override := by
  rw [value?_overridden, value?_overridden, Variables.usable?, Variables.usable?, Variables.value?,
    Variables.value?, same]

section Unusable

variable {vars}

theorem value?_overridden_of_unusable {override : Override}
    (unusable : vars.usable? override = none) :
    (settings.overridden vars).value? override = settings.value? override := by
  rw [value?_overridden, unusable, Option.none_or]

theorem overridden_of_unusable (unusable : ∀ override, vars.usable? override = none) :
    settings.overridden vars = settings :=
  (sameOtherwise_overridden settings vars).eq_of_values fun override =>
    value?_overridden_of_unusable settings (unusable override)

end Unusable

/-! ## Two layers -/

section Layers

variable (first second : Variables)

/-- The last usable value wins. -/
theorem value?_overridden_overridden (override : Override) :
    ((settings.overridden first).overridden second).value? override =
      (second.usable? override).or ((first.usable? override).or (settings.value? override)) := by
  rw [value?_overridden, value?_overridden]

theorem sameOtherwise_overridden_overridden :
    ((settings.overridden first).overridden second).SameOtherwise settings :=
  (sameOtherwise_overridden _ second).trans (sameOtherwise_overridden settings first)

end Layers

/-- Once more, the same variables change nothing. -/
theorem overridden_overridden_self :
    (settings.overridden vars).overridden vars = settings.overridden vars := by
  apply (sameOtherwise_overridden (settings.overridden vars) vars).eq_of_values
  intro override
  rw [value?_overridden_overridden, value?_overridden, ← Option.or_assoc, Option.or_self]

/-- Two layers of variables over a configuration.  A setting that has a variable has the value of
its variable in the second layer if that can be used, else that in the first layer, else its own;
all other settings stay, and what is wrong with the configuration stays as well.  Different settings
have different variables, and none depends on the variable of another.  A layer that is there twice
is there once, and values that cannot be used change nothing: those that stand for no value of the
setting. -/
theorem layered_overrides (settings : Settings) (first second : Variables) :
    (∀ override, ((settings.overridden first).overridden second).value? override =
      (second.usable? override).or ((first.usable? override).or (settings.value? override))) ∧
    ((settings.overridden first).overridden second).SameOtherwise settings ∧
    ((settings.overridden first).overridden second).fault? = settings.fault? ∧
    Function.Injective Override.name ∧
    (∀ (override : Override) (other : Variables), other override.name = first override.name →
      (settings.overridden other).value? override =
        (settings.overridden first).value? override) ∧
    (settings.overridden first).overridden first = settings.overridden first ∧
    (∀ override, first.usable? override = none →
      (settings.overridden first).value? override = settings.value? override) ∧
    ((∀ override, first.usable? override = none) → settings.overridden first = settings) ∧
    ∀ (override : Override) (value : override.Value), first.usable? override = some value ↔
      ∃ text, first override.name = some text ∧ override.Spelled text value :=
  ⟨settings.value?_overridden_overridden first second,
    settings.sameOtherwise_overridden_overridden first second,
    (settings.sameOtherwise_overridden_overridden first second).fault?_eq,
    Override.name_injective,
    fun _ _ same => settings.value?_overridden_congr same,
    settings.overridden_overridden_self first,
    fun _ unusable => settings.value?_overridden_of_unusable unusable,
    settings.overridden_of_unusable,
    fun _ _ => Variables.usable?_eq_some_iff⟩

/-- Variables that all can be used but the last one. -/
def earlier : Variables := fun name =>
  [(Override.verbosity.name, "debug"), (Override.rulesPath.name, "/tmp/rules.toml"),
    (Override.hours.name, "3"), (Override.seed.name, "99"),
    (Override.tickMs.name, "not-a-number")].lookup name

/-- Variables of which none can be used: an empty path, a word of 32 bits that is too large, a
number without digits and one below zero, and no verbosity at all. -/
def broken : Variables := fun name =>
  [(Override.rulesPath.name, ""), (Override.hours.name, "4294967296"), (Override.seed.name, "+"),
    (Override.tickMs.name, "-1")].lookup name

/-- Later values that cannot be used leave the earlier ones, and alone they leave everything;
without the seed, the number of hours is the same. -/
theorem layered_overrides_broken :
    (∀ override, ((standard.overridden earlier).overridden broken).value? override =
      (standard.overridden earlier).value? override) ∧
    ((standard.overridden earlier).overridden broken).value? .hours = some 3 ∧
    ((standard.overridden earlier).overridden broken).value? .tickMs = some 1000 ∧
    standard.overridden broken = standard ∧
    (standard.overridden (Function.update earlier Override.seed.name none)).value? .hours =
      (standard.overridden earlier).value? .hours := by
  have unusable : ∀ override, broken.usable? override = none := by
    intro override
    cases override <;> decide
  obtain ⟨values, -, -, -, apart, -⟩ := layered_overrides standard earlier broken
  obtain ⟨-, -, -, -, -, -, kept, -⟩ :=
    layered_overrides (standard.overridden earlier) broken broken
  obtain ⟨-, -, -, -, -, -, -, unchanged, -⟩ := layered_overrides standard broken broken
  exact ⟨fun override => kept override (unusable override), (values .hours).trans (by decide),
    (values .tickMs).trans (by decide), unchanged unusable, apart .hours _ (by decide)⟩

end Settings

end Lamplight
