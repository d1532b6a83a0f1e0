import Lamplight.Proofs.Settings.Loading

/-!
# What is wrong with a configuration

A configuration is accepted exactly when it can be used, and else its first fault is reported: that
of the light categories before that of the time categories, both in the configured order, then that
of the weather categories by their places, then the start hour and the chance at last.
`Settings.FirstFault` says so without going through the configuration.  Main statement:
`Settings.first_fault_reported`.
-/

namespace Lamplight

/-! ## Triangles -/

namespace Triangle

variable {triangle : Triangle}

/-- All control points are finite. -/
def Finite (triangle : Triangle) : Prop :=
  triangle.left.isFinite = true ∧ triangle.peak.isFinite = true ∧ triangle.right.isFinite = true

/-- What can be wrong with a triangle.  The order of its points only counts when they are finite. -/
inductive Faulty (triangle : Triangle) : Fault → Prop
  | notFinite (infinite : ¬triangle.Finite) : triangle.Faulty .notFinite
  | unordered (finite : triangle.Finite)
      (disorder : ¬(triangle.left ≤ triangle.peak ∧ triangle.peak ≤ triangle.right)) :
      triangle.Faulty .unordered

theorem finite_iff : triangle.Finite ↔
    ¬(!(triangle.left.isFinite && triangle.peak.isFinite && triangle.right.isFinite)) = true := by
  rw [Finite, Bool.not_eq_true', Bool.not_eq_false, Bool.and_eq_true, Bool.and_eq_true, and_assoc]

theorem fault?_eq_some_iff {fault : Fault} : triangle.fault? = some fault ↔
    triangle.Faulty fault := by
  constructor
  · intro found
    have unusable : ¬triangle.fault? = none := by simp [found]
    rw [fault?_eq_none_iff] at unusable
    by_cases finite : triangle.Finite
    · rw [fault?, if_neg (finite_iff.mp finite)] at found
      split at found
      · cases found
        exact .unordered finite fun ordered => unusable ⟨finite, ordered⟩
      · cases found
    · rw [fault?, if_pos (not_not.mp (mt finite_iff.mpr finite))] at found
      cases found
      exact .notFinite finite
  · intro faulty
    cases faulty with
    | notFinite infinite =>
      rw [fault?, if_pos (not_not.mp (mt finite_iff.mpr infinite))]
    | unordered finite disorder =>
      have unusable : ¬triangle.fault? = none := by
        rw [fault?_eq_none_iff]
        exact fun usable => disorder usable.2
      rw [fault?, if_neg (finite_iff.mp finite)] at unusable ⊢
      split at unusable
      · next descending => rw [if_pos descending]
      · exact absurd rfl unusable

end Triangle

/-! ## Categories -/

namespace Categories

variable {channel : Reading} {terms : Catalog Triangle} {weather : List String} {fault : Fault}

/-- The first thing that is wrong with the categories of a numeric channel. -/
inductive FirstTermsFault (channel : Reading) (terms : Catalog Triangle) : Fault → Prop
  | missing (empty : terms.entries = []) : FirstTermsFault channel terms (.missing channel)
  | triangle {before after : List (String × Triangle)} {category : String} {shape : Triangle}
      {fault : Triangle.Fault} (split : terms.entries = before ++ (category, shape) :: after)
      (sound : ∀ entry ∈ before, ∀ fault, ¬entry.2.Faulty fault) (faulty : shape.Faulty fault) :
      FirstTermsFault channel terms (.triangle channel category shape fault)

theorem termsFault?_eq_some_iff :
    termsFault? channel terms = some fault ↔ FirstTermsFault channel terms fault := by
  have sound_iff : ∀ entry : String × Triangle,
      entry.2.fault?.map (Fault.triangle channel entry.1 entry.2) = none ↔
        ∀ fault, ¬entry.2.Faulty fault := by
    intro entry
    rw [Option.map_eq_none_iff, Option.eq_none_iff_forall_ne_some]
    exact forall_congr' fun fault => not_congr Triangle.fault?_eq_some_iff
  rw [termsFault?, Catalog.isEmpty]
  split
  · next empty =>
    rw [List.isEmpty_iff] at empty
    constructor
    · rintro ⟨⟩
      exact .missing empty
    · rintro (- | ⟨split, -, -⟩)
      · rfl
      · rw [empty] at split
        exact absurd split (List.nil_eq_append_iff.not.mpr (by simp))
  · next nonempty =>
    rw [List.isEmpty_iff] at nonempty
    rw [List.findSome?_eq_some_iff]
    constructor
    · rintro ⟨before, ⟨category, shape⟩, after, split, found, earlier⟩
      obtain ⟨fault, faulty, rfl⟩ := Option.map_eq_some_iff.mp found
      exact .triangle split (fun entry member => (sound_iff entry).mp (earlier entry member))
        (Triangle.fault?_eq_some_iff.mp faulty)
    · rintro (empty | ⟨split, sound, faulty⟩)
      · exact absurd empty nonempty
      · refine ⟨_, _, _, split, ?_, fun entry member => (sound_iff entry).mpr (sound entry member)⟩
        exact Option.map_eq_some_iff.mpr ⟨_, Triangle.fault?_eq_some_iff.mpr faulty, rfl⟩

/-- The fault of one weather category behind others. -/
def categoryFault? (earlier : List String) (category : String) : Option Fault :=
  if category = "" then some .unnamed
  else if category ∈ earlier then some (.repeated category)
  else none

theorem weatherFaultAfter?_cons (earlier : List String) (category : String) (rest : List String) :
    weatherFaultAfter? earlier (category :: rest) =
      (categoryFault? earlier category).or (weatherFaultAfter? (earlier ++ [category]) rest) := by
  rw [weatherFaultAfter?, categoryFault?]
  split
  · rfl
  · split
    · rfl
    · rfl

/-- The fault of a list is that of the first category that has one. -/
theorem weatherFaultAfter?_eq_some_iff {earlier : List String} :
    weatherFaultAfter? earlier weather = some fault ↔
      ∃ before category after, weather = before ++ category :: after ∧
        weatherFaultAfter? earlier before = none ∧
        categoryFault? (earlier ++ before) category = some fault := by
  induction weather generalizing earlier with
  | nil => simp [weatherFaultAfter?]
  | cons first rest ih =>
    rw [weatherFaultAfter?_cons, Option.or_eq_some_iff, ih]
    constructor
    · rintro (here | ⟨sound, before, category, after, rfl, none, found⟩)
      · exact ⟨[], first, rest, rfl, rfl, by rwa [List.append_nil]⟩
      · refine ⟨first :: before, category, after, rfl, ?_, ?_⟩
        · rw [weatherFaultAfter?_cons, sound, Option.none_or, none]
        · rwa [List.append_cons]
    · rintro ⟨before, category, after, split, none, found⟩
      cases before with
      | nil =>
        obtain ⟨rfl, -⟩ := List.cons.inj split
        rw [List.append_nil] at found
        exact .inl found
      | cons other before =>
        obtain ⟨rfl, rfl⟩ := List.cons.inj split
        rw [weatherFaultAfter?_cons, Option.or_eq_none_iff] at none
        rw [List.append_cons] at found
        exact .inr ⟨none.1, before, category, after, rfl, none.2, found⟩

/-- The first thing that is wrong with the weather categories.  One that is repeated is reported
where it comes for the second time, since those before it differ from one another. -/
inductive FirstWeatherFault (weather : List String) : Fault → Prop
  | missing (empty : weather = []) : FirstWeatherFault weather (.missing .weather)
  | unnamed {before after : List String} (split : weather = before ++ "" :: after)
      (named : ∀ category ∈ before, category ≠ "") (distinct : before.Nodup) :
      FirstWeatherFault weather .unnamed
  | repeated {before after : List String} {category : String}
      (split : weather = before ++ category :: after)
      (named : ∀ category ∈ before, category ≠ "") (distinct : before.Nodup)
      (known : category ∈ before) :
      FirstWeatherFault weather (.repeated category)

theorem weatherFault?_eq_some_iff :
    weatherFault? weather = some fault ↔ FirstWeatherFault weather fault := by
  have sound_iff : ∀ before, weatherFaultAfter? [] before = none ↔
      (∀ category ∈ before, category ≠ "") ∧ before.Nodup := by
    intro before
    simp [weatherFaultAfter?_eq_none_iff]
  cases weather with
  | nil =>
    rw [weatherFault?, List.isEmpty_nil, if_pos rfl]
    constructor
    · rintro ⟨⟩
      exact .missing rfl
    · intro first
      cases first with
      | missing => rfl
      | unnamed split => simp at split
      | repeated split => simp at split
  | cons category rest =>
    rw [weatherFault?, List.isEmpty_cons, if_neg Bool.false_ne_true, weatherFaultAfter?_eq_some_iff]
    constructor
    · rintro ⟨before, found, after, split, sound, faulty⟩
      obtain ⟨named, distinct⟩ := (sound_iff before).mp sound
      rw [List.nil_append, categoryFault?] at faulty
      split_ifs at faulty with empty known
      · cases faulty
        exact .unnamed (empty ▸ split) named distinct
      · cases faulty
        exact .repeated split named distinct known
    · intro first
      cases first with
      | missing empty => cases empty
      | unnamed split named distinct =>
        exact ⟨_, _, _, split, (sound_iff _).mpr ⟨named, distinct⟩, rfl⟩
      | repeated split named distinct known =>
        refine ⟨_, _, _, split, (sound_iff _).mpr ⟨named, distinct⟩, ?_⟩
        rw [List.nil_append, categoryFault?, if_neg (named _ known), if_pos known]

end Categories

/-! ## Configurations -/

namespace Settings

/-- What must hold of all categories. -/
structure UsableCategories (categories : Categories) : Prop where
  light : UsableTerms categories.light
  time : UsableTerms categories.time
  weather : categories.weather ≠ [] ∧ (∀ category ∈ categories.weather, category ≠ "") ∧
    categories.weather.Nodup

/-- The first thing that is wrong with a configuration: whatever is looked at before it is in
order. -/
inductive FirstFault (settings : Settings) : Fault → Prop
  | light {fault : Categories.Fault}
      (first : Categories.FirstTermsFault .light settings.categories.light fault) :
      FirstFault settings (.categories fault)
  | time {fault : Categories.Fault} (light : UsableTerms settings.categories.light)
      (first : Categories.FirstTermsFault .time settings.categories.time fault) :
      FirstFault settings (.categories fault)
  | weather {fault : Categories.Fault} (light : UsableTerms settings.categories.light)
      (time : UsableTerms settings.categories.time)
      (first : Categories.FirstWeatherFault settings.categories.weather fault) :
      FirstFault settings (.categories fault)
  | startHour (categories : UsableCategories settings.categories)
      (late : 23 < settings.simulation.startHour) :
      FirstFault settings (.startHour settings.simulation.startHour)
  | chance (categories : UsableCategories settings.categories)
      (startHour : settings.simulation.startHour ≤ 23)
      (outside : ¬(0 ≤ settings.simulation.chance ∧ settings.simulation.chance ≤ 1)) :
      FirstFault settings (.chance settings.simulation.chance)

variable {settings : Settings}

theorem categoriesFault?_eq_none_iff {categories : Categories} :
    categories.fault? = none ↔ UsableCategories categories := by
  rw [Categories.fault?, Option.or_eq_none_iff, Option.or_eq_none_iff, usableTerms_iff,
    usableTerms_iff, Categories.weatherFault?_eq_none_iff]
  constructor
  · rintro ⟨light, time, weather⟩
    exact ⟨light, time, weather⟩
  · rintro ⟨light, time, weather⟩
    exact ⟨light, time, weather⟩

theorem simulationFault?_eq_some_iff {simulation : SimulationSettings} {fault : Fault} :
    simulationFault? simulation = some fault ↔
      23 < simulation.startHour ∧ fault = .startHour simulation.startHour ∨
      simulation.startHour ≤ 23 ∧ ¬(0 ≤ simulation.chance ∧ simulation.chance ≤ 1) ∧
        fault = .chance simulation.chance := by
  rw [simulationFault?]
  split
  · next late => simp [late, UInt32.not_le.mpr late, eq_comm]
  · next soon =>
    rw [UInt32.not_lt] at soon
    split
    · next inside =>
      simp only [Bool.and_eq_true, decide_eq_true_iff] at inside
      simp [UInt32.not_lt.mpr soon, inside]
    · next outside =>
      simp only [Bool.and_eq_true, decide_eq_true_iff] at outside
      simp [UInt32.not_lt.mpr soon, soon, outside, eq_comm]

theorem fault?_eq_some_iff {fault : Fault} :
    settings.fault? = some fault ↔ settings.FirstFault fault := by
  rw [fault?, Option.or_eq_some_iff, Option.map_eq_none_iff, categoriesFault?_eq_none_iff,
    simulationFault?_eq_some_iff, Option.map_eq_some_iff]
  simp only [Categories.fault?, Option.or_eq_some_iff, usableTerms_iff,
    Categories.termsFault?_eq_some_iff, Categories.weatherFault?_eq_some_iff]
  constructor
  · rintro (⟨found, light | ⟨light, time | ⟨time, weather⟩⟩, rfl⟩ |
      ⟨categories, ⟨late, rfl⟩ | ⟨startHour, outside, rfl⟩⟩)
    · exact .light light
    · exact .time light time
    · exact .weather light time weather
    · exact .startHour categories late
    · exact .chance categories startHour outside
  · intro first
    cases first with
    | light first => exact .inl ⟨_, .inl first, rfl⟩
    | time light first => exact .inl ⟨_, .inr ⟨light, .inl first⟩, rfl⟩
    | weather light time first => exact .inl ⟨_, .inr ⟨light, .inr ⟨time, first⟩⟩, rfl⟩
    | startHour categories late => exact .inr ⟨categories, .inl ⟨late, rfl⟩⟩
    | chance categories startHour outside =>
      exact .inr ⟨categories, .inr ⟨startHour, outside, rfl⟩⟩

theorem validated_eq_ok_iff : settings.validated = .ok settings ↔ settings.Usable := by
  rw [← fault?_eq_none_iff, validated]
  cases settings.fault? <;> simp

theorem validated_eq_error_iff {error : SettingsError} : settings.validated = .error error ↔
    ∃ fault, settings.FirstFault fault ∧ error = .invalid fault.message := by
  simp only [← fault?_eq_some_iff, validated]
  cases settings.fault? <;> simp [eq_comm]

/-- Every configuration that cannot be used has one first fault. -/
theorem not_usable_iff : ¬settings.Usable ↔ ∃! fault, settings.FirstFault fault := by
  simp only [← fault?_eq_none_iff, ← fault?_eq_some_iff]
  cases settings.fault? <;> simp [ExistsUnique]

/-- A configuration is accepted exactly when it can be used; that its chance is no number at all is
never accepted.  Every other one is refused for its first fault, of which there is one: for the
light categories, for the time categories, for the weather categories, for the start hour, for the
chance, in this order. -/
theorem first_fault_reported (settings : Settings) :
    (settings.validated = .ok settings ↔ settings.Usable) ∧
    ¬(settings.Usable ∧ settings.simulation.chance.isNaN = true) ∧
    (¬settings.Usable ↔ ∃! fault, settings.FirstFault fault) ∧
    ∀ error, settings.validated = .error error ↔
      ∃ fault, settings.FirstFault fault ∧ error = .invalid fault.message := by
  refine ⟨validated_eq_ok_iff, ?_, not_usable_iff, fun error => validated_eq_error_iff⟩
  rintro ⟨usable, undefined⟩
  rw [(Decimal.isNumber_of_le usable.chance.1).2] at undefined
  cases undefined

/-- The standard configuration with a weather that comes twice, one without a name behind it, an
hour that there is not and a chance that is no number. -/
def muddled : Settings :=
  { standard with
    categories := { Categories.standard with weather := ["clear", "rainy", "clear", ""] }
    simulation := { SimulationSettings.standard with startHour := 24, chance := 0.0 / 0.0 } }

/-- Of four faults, the weather that comes for the second time is reported. -/
theorem first_fault_reported_muddled :
    muddled.validated = .error (.invalid "duplicate weather category 'clear'") ∧
      ¬muddled.Usable := by
  obtain ⟨-, -, -, refused⟩ := first_fault_reported muddled
  have lightFaultless : Categories.termsFault? .light muddled.categories.light = none := by
    decide +kernel
  have timeFaultless : Categories.termsFault? .time muddled.categories.time = none := by
    decide +kernel
  have repeats : Categories.FirstWeatherFault muddled.categories.weather (.repeated "clear") :=
    .repeated (show _ = ["clear", "rainy"] ++ "clear" :: [""] from rfl) (by decide) (by decide)
      (by decide)
  have reported : muddled.validated = .error (.invalid "duplicate weather category 'clear'") :=
    (refused _).mpr ⟨_, .weather (usableTerms_iff.mp lightFaultless)
      (usableTerms_iff.mp timeFaultless) repeats, rfl⟩
  refine ⟨reported, fun usable => ?_⟩
  rw [validated_eq_ok_iff.mpr usable] at reported
  cases reported

end Settings

end Lamplight
