/-!
# Catalogs

A catalog is a list of named entries.  Its names are distinct and stay in the order in
which they first came: writing to a name that is already there replaces the value and
keeps the place.  Membership categories, degrees and tables of a document are catalogs.
-/

namespace Lamplight

/-- Entries with distinct names, in the order in which the names first came. -/
structure Catalog (α : Type) where
  entries : List (String × α)
  distinct : (entries.map Prod.fst).Nodup

namespace Catalog

variable {α β : Type}

/-- The entries after writing a value to a name. -/
def put (name : String) (value : α) : List (String × α) → List (String × α)
  | [] => [(name, value)]
  | entry :: rest =>
    if entry.1 = name then (name, value) :: rest else entry :: put name value rest

theorem map_fst_put (name : String) (value : α) (entries : List (String × α)) :
    (put name value entries).map Prod.fst =
      if name ∈ entries.map Prod.fst then entries.map Prod.fst
      else entries.map Prod.fst ++ [name] := by
  induction entries with
  | nil => simp [put]
  | cons entry rest ih =>
    by_cases same : entry.1 = name
    · simp [put, same]
    · have other : name ≠ entry.1 := fun equal => same equal.symm
      simp only [put, same, if_false, List.map_cons, ih, List.mem_cons, other, false_or]
      split <;> simp

theorem nodup_put (name : String) (value : α) {entries : List (String × α)}
    (distinct : (entries.map Prod.fst).Nodup) :
    ((put name value entries).map Prod.fst).Nodup := by
  rw [map_fst_put]
  split
  · exact distinct
  · next absent =>
    rw [List.nodup_append]
    refine ⟨distinct, by simp, ?_⟩
    intro left leftIn right rightIn equal
    simp only [List.mem_singleton] at rightIn
    exact absent (rightIn ▸ equal ▸ leftIn)

/-- The catalog without entries. -/
def empty : Catalog α := ⟨[], by simp⟩

instance : Inhabited (Catalog α) := ⟨empty⟩

/-- Write a value to a name. -/
def insert (catalog : Catalog α) (name : String) (value : α) : Catalog α :=
  ⟨put name value catalog.entries, nodup_put name value catalog.distinct⟩

/-- The catalog of a list of entries, written one after the other. -/
def ofList (entries : List (String × α)) : Catalog α :=
  entries.foldl (fun catalog entry => catalog.insert entry.1 entry.2) empty

/-- The names in order. -/
def names (catalog : Catalog α) : List String :=
  catalog.entries.map Prod.fst

/-- The value under a name. -/
def get? (catalog : Catalog α) (name : String) : Option α :=
  (catalog.entries.find? (·.1 == name)).map Prod.snd

/-- The number of entries. -/
def size (catalog : Catalog α) : Nat := catalog.entries.length

/-- Whether there is no entry. -/
def isEmpty (catalog : Catalog α) : Bool := catalog.entries.isEmpty

/-- The catalog with a function applied to every value. -/
def map (catalog : Catalog α) (image : α → β) : Catalog β :=
  ⟨catalog.entries.map fun entry => (entry.1, image entry.2), by
    simpa [Function.comp_def] using catalog.distinct⟩

/-- Whether two catalogs have the same names with equal values, in whatever order. -/
def agrees [BEq α] (left right : Catalog α) : Bool :=
  left.size == right.size &&
    left.entries.all fun entry =>
      match right.get? entry.1 with
      | some value => entry.2 == value
      | none => false

@[simp] theorem entries_empty : (empty : Catalog α).entries = [] := rfl

@[simp] theorem names_empty : (empty : Catalog α).names = [] := rfl

@[simp] theorem entries_insert (catalog : Catalog α) (name : String) (value : α) :
    (catalog.insert name value).entries = put name value catalog.entries := rfl

theorem names_insert (catalog : Catalog α) (name : String) (value : α) :
    (catalog.insert name value).names =
      if name ∈ catalog.names then catalog.names else catalog.names ++ [name] :=
  map_fst_put name value catalog.entries

@[simp] theorem names_map (catalog : Catalog α) (image : α → β) :
    (catalog.map image).names = catalog.names := by
  simp [names, map]

theorem nodup_names (catalog : Catalog α) : catalog.names.Nodup := catalog.distinct

@[simp] theorem get?_insert_self (catalog : Catalog α) (name : String) (value : α) :
    (catalog.insert name value).get? name = some value := by
  have found : ∀ entries : List (String × α),
      (put name value entries).find? (·.1 == name) = some (name, value) := by
    intro entries
    induction entries with
    | nil => simp [put]
    | cons entry rest ih =>
      by_cases same : entry.1 = name
      · simp [put, same]
      · simp [put, same, ih]
  simp [get?, found]

theorem get?_insert_of_ne (catalog : Catalog α) {name other : String} (value : α)
    (different : other ≠ name) :
    (catalog.insert name value).get? other = catalog.get? other := by
  have found : ∀ entries : List (String × α),
      (put name value entries).find? (·.1 == other) = entries.find? (·.1 == other) := by
    intro entries
    induction entries with
    | nil => simp [put, different.symm]
    | cons entry rest ih =>
      by_cases same : entry.1 = name
      · simp [put, same, different.symm]
      · simp [put, same, List.find?_cons, ih]
  simp [get?, found]

end Catalog

end Lamplight
