import Lamplight.Membership.Categories
import Lamplight.Proofs.Catalog

/-!
# Every category has a degree

The maps of a sample hold the configured categories and no others, whatever the readings are: light
and time categories in their order, each with the clamped degree of its own triangle, and weather
categories where they are listed first, with one for the weather of the sample and zero for the
others.  Main statement: `Categories.degrees_of_configured`.
-/

namespace Lamplight

/-- The map of a number: every category of the channel with the degree of its triangle. -/
theorem Variable.fuzzify_eq (channel : Variable) (number : Float) :
    channel.fuzzify number =
      channel.terms.map fun triangle => clamp 0 1 (triangle.degree number) := by
  rw [← Catalog.ofList_entries (channel.terms.map _), Catalog.ofList, Catalog.map, List.foldl_map]
  rfl

theorem Variable.names_fuzzify (channel : Variable) (number : Float) :
    (channel.fuzzify number).names = channel.terms.names := by
  rw [fuzzify_eq, Catalog.names_map]

theorem Variable.get?_fuzzify (channel : Variable) (number : Float) (category : String) :
    (channel.fuzzify number).get? category =
      (channel.terms.get? category).map fun triangle => clamp 0 1 (triangle.degree number) := by
  rw [fuzzify_eq, Catalog.get?_map]

namespace Categories

variable (categories : Categories) (weather : String)

/-- The degree of a weather category. -/
def weatherDegree (weather category : String) : Float := if category = weather then 1 else 0

/-- The map of a weather: every category, where it is listed first, with its degree. -/
theorem entries_fuzzifyWeather :
    (categories.fuzzifyWeather weather).entries =
      Catalog.valued (weatherDegree weather) categories.weather.eraseDups := by
  have clamped : ∀ category,
      clamp 0 1 (if category = weather then 1 else 0) = weatherDegree weather category := by
    intro category
    rw [weatherDegree]
    split
    · decide
    · decide
  have written := Catalog.entries_foldl_insert (weatherDegree weather) categories.weather
  simpa only [fuzzifyWeather, Degrees.record, clamped] using written

theorem names_fuzzifyWeather :
    (categories.fuzzifyWeather weather).names = categories.weather.eraseDups := by
  rw [Catalog.names, entries_fuzzifyWeather, Catalog.names_valued]

theorem get?_fuzzifyWeather (category : String) :
    (categories.fuzzifyWeather weather).get? category =
      if category ∈ categories.weather then some (weatherDegree weather category) else none := by
  simp only [Catalog.get?_of_valued _ (entries_fuzzifyWeather categories weather),
    List.mem_eraseDups]

theorem weatherDegree_ne_zero_iff {category : String} :
    weatherDegree weather category ≠ 0 ↔ category = weather := by
  rw [weatherDegree]
  split
  · next same => exact iff_of_true (by decide) same
  · next other => exact iff_of_false (by decide) other

/-- The weather of a sample is the one category that is not at zero, if it is configured. -/
theorem filter_fuzzifyWeather :
    (categories.fuzzifyWeather weather).entries.filter (fun entry => entry.2 ≠ 0) =
      if weather ∈ categories.weather then [(weather, 1)] else [] := by
  have once : categories.weather.eraseDups.Nodup :=
    names_fuzzifyWeather categories weather ▸ Catalog.nodup_names _
  rw [entries_fuzzifyWeather, Catalog.valued, List.filter_map]
  have test : (fun entry : String × Float => decide (entry.2 ≠ 0)) ∘
      (fun category => (category, weatherDegree weather category)) =
        fun category => decide (category = weather) := by
    funext category
    exact decide_eq_decide.mpr (weatherDegree_ne_zero_iff weather)
  rw [test, List.filter_eq, once.count, List.map_replicate]
  simp only [List.mem_eraseDups, weatherDegree, if_true]
  split
  · rfl
  · rfl

/-- All degrees are zero exactly when the weather of a sample is not configured. -/
theorem eq_zero_fuzzifyWeather_iff :
    (∀ entry ∈ (categories.fuzzifyWeather weather).entries, entry.2 = 0) ↔
      weather ∉ categories.weather := by
  have selected := filter_fuzzifyWeather categories weather
  constructor
  · intro zero known
    rw [if_pos known] at selected
    have member : (weather, (1 : Float)) ∈ (categories.fuzzifyWeather weather).entries :=
      (List.mem_filter.mp (selected ▸ List.mem_singleton_self (weather, 1))).1
    have nonzero : (1 : Float) ≠ 0 := by decide
    exact nonzero (zero _ member)
  · intro unknown entry member
    rw [if_neg unknown, List.filter_eq_nil_iff] at selected
    simpa using selected entry member

/-- The maps of a sample, for any categories and any readings.  Light and time have the names of
their categories in order, each with the clamped degree of its triangle.  The weather has its
categories in the order in which they come first, with one for the weather of the sample and zero
for the others: no other category is at more than zero, and all are at zero exactly when the weather
is not configured. -/
theorem degrees_of_configured (categories : Categories) (sample : Sample) :
    ((categories.fuzzify sample).light.names = categories.light.names ∧
      ∀ category, (categories.fuzzify sample).light.get? category =
        (categories.light.get? category).map fun triangle =>
          clamp 0 1 (triangle.degree sample.light)) ∧
    ((categories.fuzzify sample).time.names = categories.time.names ∧
      ∀ category, (categories.fuzzify sample).time.get? category =
        (categories.time.get? category).map fun triangle =>
          clamp 0 1 (triangle.degree sample.time)) ∧
    ((categories.fuzzify sample).weather.names = categories.weather.eraseDups ∧
      ∀ category, (categories.fuzzify sample).weather.get? category =
        if category ∈ categories.weather then
          some (if category = sample.weather then 1 else 0)
        else none) ∧
    (categories.fuzzify sample).weather.entries.filter (fun entry => entry.2 ≠ 0) =
      (if sample.weather ∈ categories.weather then [(sample.weather, 1)] else []) ∧
    ((∀ entry ∈ (categories.fuzzify sample).weather.entries, entry.2 = 0) ↔
      sample.weather ∉ categories.weather) := by
  refine ⟨⟨?_, ?_⟩, ⟨?_, ?_⟩, ⟨?_, ?_⟩, ?_, ?_⟩
  · exact Variable.names_fuzzify _ _
  · exact Variable.get?_fuzzify _ _
  · exact Variable.names_fuzzify _ _
  · exact Variable.get?_fuzzify _ _
  · exact names_fuzzifyWeather _ _
  · exact get?_fuzzifyWeather _ _
  · exact filter_fuzzifyWeather _ _
  · exact eq_zero_fuzzifyWeather_iff _ _

/-- Standard categories with a weather that is listed twice. -/
def rainyTwice : Categories := { standard with weather := ["rainy", "clear", "rainy"] }

/-- Without a time and in infinite light, all the categories are still there; rain keeps its first
place, and fog, which is not configured, leaves every weather at zero. -/
theorem degrees_of_configured_rainyTwice :
    (rainyTwice.fuzzify ⟨0.0 / 0.0, 1.0 / 0.0, "rainy"⟩).time.names =
      ["night", "morning", "day", "evening"] ∧
    (rainyTwice.fuzzify ⟨0.0 / 0.0, 1.0 / 0.0, "rainy"⟩).weather.names = ["rainy", "clear"] ∧
    (rainyTwice.fuzzify ⟨0.0 / 0.0, 1.0 / 0.0, "rainy"⟩).weather.get? "rainy" = some 1 ∧
    ∀ entry ∈ (rainyTwice.fuzzify ⟨13, 0.5, "fog"⟩).weather.entries, entry.2 = 0 := by
  obtain ⟨-, ⟨time, -⟩, ⟨weather, degrees⟩, -⟩ :=
    degrees_of_configured rainyTwice ⟨0.0 / 0.0, 1.0 / 0.0, "rainy"⟩
  obtain ⟨-, -, -, -, zero⟩ := degrees_of_configured rainyTwice ⟨13, 0.5, "fog"⟩
  refine ⟨time.trans (by decide +kernel), weather.trans (by decide +kernel), ?_, ?_⟩
  · rw [degrees "rainy"]
    decide +kernel
  · exact zero.mpr (by decide +kernel)

end Categories

end Lamplight
