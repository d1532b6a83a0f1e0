import Mathlib.Data.List.Induction
import Lamplight.Catalog

/-!
# Catalogs that are written one entry after the other

A name that is not there yet comes last, so that writing the entries of a catalog gives the catalog
back.  When a name is written again with the value that it has, the catalog stays as it is: a list
of names, each with a value of its own, becomes the catalog of its first occurrences.
-/

namespace Lamplight.Catalog

variable {α β : Type}

theorem eq_of_entries {left right : Catalog α} (same : left.entries = right.entries) :
    left = right := by
  obtain ⟨_, _⟩ := left
  obtain ⟨_, _⟩ := right
  cases same
  rfl

theorem put_of_fresh {name : String} {entries : List (String × α)}
    (fresh : name ∉ entries.map Prod.fst) (value : α) :
    put name value entries = entries ++ [(name, value)] := by
  induction entries with
  | nil => rfl
  | cons entry entries ih =>
    rw [List.map_cons, List.mem_cons, not_or] at fresh
    rw [put, if_neg fun same => fresh.1 same.symm, ih fresh.2, List.cons_append]

/-- The entries of a catalog, written one after the other, are the catalog. -/
theorem ofList_entries (catalog : Catalog α) : ofList catalog.entries = catalog := by
  have written : ∀ (back : List (String × α)) (front : Catalog α),
      ((front.entries ++ back).map Prod.fst).Nodup →
        (back.foldl (fun catalog entry => catalog.insert entry.1 entry.2) front).entries =
          front.entries ++ back := by
    intro back
    induction back with
    | nil => exact fun front _ => (List.append_nil _).symm
    | cons entry back ih =>
      intro front distinct
      have fresh : entry.1 ∉ front.entries.map Prod.fst := by
        rw [List.map_append, List.nodup_append] at distinct
        exact fun member => distinct.2.2 _ member _ (.head _) rfl
      have longer : (front.insert entry.1 entry.2).entries = front.entries ++ [entry] :=
        put_of_fresh fresh entry.2
      rw [List.foldl_cons, ih]
      · rw [longer, List.append_assoc, List.singleton_append]
      · rw [longer, List.append_assoc, List.singleton_append]
        exact distinct
  exact eq_of_entries (written catalog.entries empty catalog.distinct)

theorem get?_map (catalog : Catalog α) (image : α → β) (name : String) :
    (catalog.map image).get? name = (catalog.get? name).map image := by
  simp only [get?, map, List.find?_map, Option.map_map]
  rfl

/-- An entry is found under its name. -/
theorem get?_eq_some_iff {catalog : Catalog α} {name : String} {value : α} :
    catalog.get? name = some value ↔ (name, value) ∈ catalog.entries := by
  have searched : ∀ entries : List (String × α), (entries.map Prod.fst).Nodup →
      ((entries.find? (·.1 == name)).map Prod.snd = some value ↔ (name, value) ∈ entries) := by
    intro entries distinct
    induction entries with
    | nil => simp
    | cons entry entries ih =>
      rw [List.map_cons, List.nodup_cons] at distinct
      rw [List.find?_cons, List.mem_cons]
      by_cases same : entry.1 = name
      · have once : (name, value) ∉ entries := fun again =>
          distinct.1 (same ▸ List.mem_map_of_mem again)
        simp only [same, BEq.rfl, Option.map_some, Option.some_inj, once, or_false]
        rw [Prod.ext_iff]
        simp [same, eq_comm]
      · have other : (entry.1 == name) = false := beq_eq_false_iff_ne.mpr same
        have apart : (name, value) ≠ entry := by
          rintro rfl
          exact same rfl
        simp only [other, apart, false_or]
        exact ih distinct.2
  exact searched catalog.entries catalog.distinct

/-! ## Names with values of their own -/

section Values

variable (value : String → α)

/-- Names with their values. -/
def valued (names : List String) : List (String × α) :=
  names.map fun name => (name, value name)

theorem names_valued (names : List String) : (valued value names).map Prod.fst = names := by
  simp [valued, Function.comp_def]

/-- Writing the value that a name has changes nothing. -/
theorem put_valued_of_mem {name : String} {names : List String} (member : name ∈ names) :
    put name (value name) (valued value names) = valued value names := by
  induction names with
  | nil => cases member
  | cons first rest ih =>
    rw [valued, List.map_cons, put]
    split
    · next same => rw [show first = name from same]
    · next other =>
      have behind : name ∈ rest :=
        (List.mem_cons.mp member).resolve_left fun same => other same.symm
      exact congrArg _ (ih behind)

/-- Names that are written one after the other stand where they came first. -/
theorem entries_foldl_insert (names : List String) :
    (names.foldl (fun catalog name => catalog.insert name (value name)) empty).entries =
      valued value names.eraseDups := by
  -- from the back: the last name is new, or it changes nothing
  induction names using List.reverseRecOn with
  | nil => rfl
  | append_singleton names name ih =>
    rw [List.foldl_append, List.foldl_cons, List.foldl_nil, entries_insert, ih,
      List.eraseDups_append]
    by_cases known : name ∈ names
    · have none : [name].removeAll names = [] := by simp [List.removeAll, known]
      rw [none, put_valued_of_mem value (List.mem_eraseDups.mpr known), List.eraseDups_nil,
        List.append_nil]
    · have one : [name].removeAll names = [name] := by simp [List.removeAll, known]
      have fresh : name ∉ (valued value names.eraseDups).map Prod.fst := by
        rwa [names_valued, List.mem_eraseDups]
      rw [one, put_of_fresh fresh, valued, valued, List.map_append]
      rfl

/-- A catalog of names with values of their own has these values under these names only. -/
theorem get?_of_valued {catalog : Catalog α} {names : List String}
    (entries : catalog.entries = valued value names) (name : String) :
    catalog.get? name = if name ∈ names then some (value name) else none := by
  rw [get?, entries, valued, List.find?_map, Option.map_map]
  split
  · next member =>
    obtain ⟨found, equal⟩ : ∃ found, names.find? (· == name) = some found := by
      rw [← Option.isSome_iff_exists, List.find?_isSome]
      exact ⟨name, member, BEq.rfl⟩
    have same : found = name := by simpa using List.find?_some equal
    simp [Function.comp_def, equal, same]
  · next absent =>
    have none : names.find? (· == name) = none := by
      rw [List.find?_eq_none]
      intro other member
      have different : other ≠ name := by
        rintro rfl
        exact absent member
      simpa using different
    simp [Function.comp_def, none]

end Values

end Lamplight.Catalog
