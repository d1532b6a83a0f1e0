/-!
# Entries in the order of their names

Named values in strictly ascending order of the names, so that no name comes twice: writing to a
name that is already there replaces the value.  The circumstances of a failure and the members of
a JSON object are brought into this order.
-/

namespace Lamplight

/-- Named values in strictly ascending order of the names. -/
structure Ordered (α : Type) where
  entries : List (String × α)
  ascending : entries.Pairwise fun left right => left.1 < right.1
  deriving Repr, DecidableEq

namespace Ordered

variable {α β : Type}

/-- The entries after writing a value to a name; a value that was there is replaced. -/
def put (name : String) (value : α) : List (String × α) → List (String × α)
  | [] => [(name, value)]
  | entry :: rest =>
    if name < entry.1 then (name, value) :: entry :: rest
    else if name = entry.1 then (name, value) :: rest
    else entry :: put name value rest

theorem eq_or_mem_of_mem_put {name : String} {value : α} {entry : String × α}
    {entries : List (String × α)} (member : entry ∈ put name value entries) :
    entry = (name, value) ∨ entry ∈ entries := by
  induction entries with
  | nil => exact .inl (by simpa [put] using member)
  | cons first rest ih =>
    unfold put at member
    split at member
    · simpa using member
    · split at member
      · rcases List.mem_cons.mp member with equal | member
        · exact .inl equal
        · exact .inr (List.mem_cons_of_mem _ member)
      · rcases List.mem_cons.mp member with equal | member
        · exact .inr (equal ▸ List.mem_cons_self)
        · exact (ih member).imp_right (List.mem_cons_of_mem _)

/-- Writing keeps the names in strictly ascending order. -/
theorem pairwise_put (name : String) (value : α) {entries : List (String × α)}
    (ascending : entries.Pairwise fun left right => left.1 < right.1) :
    (put name value entries).Pairwise fun left right => left.1 < right.1 := by
  induction entries with
  | nil => simp [put]
  | cons first rest ih =>
    obtain ⟨before, ascending⟩ := List.pairwise_cons.mp ascending
    unfold put
    split
    · next less =>
      refine List.pairwise_cons.mpr ⟨?_, List.pairwise_cons.mpr ⟨before, ascending⟩⟩
      intro entry member
      rcases List.mem_cons.mp member with rfl | member
      · exact less
      · exact String.lt_trans less (before entry member)
    · next notLess =>
      split
      · next equal => exact List.pairwise_cons.mpr ⟨equal ▸ before, ascending⟩
      · next different =>
        refine List.pairwise_cons.mpr ⟨?_, ih ascending⟩
        intro entry member
        rcases eq_or_mem_of_mem_put member with rfl | member
        · exact Classical.byContradiction fun notGreater =>
            different (String.le_antisymm (String.not_lt.mp notGreater) (String.not_lt.mp notLess))
        · exact before entry member

/-- No values. -/
def empty : Ordered α := ⟨[], .nil⟩

/-- Write a value to a name. -/
def insert (ordered : Ordered α) (name : String) (value : α) : Ordered α :=
  ⟨put name value ordered.entries, pairwise_put name value ordered.ascending⟩

/-- The values of a list in the order of their names; the last value of a name counts. -/
def ofList (entries : List (String × α)) : Ordered α :=
  entries.foldl (fun ordered entry => ordered.insert entry.1 entry.2) empty

/-- The value under a name. -/
def get? (ordered : Ordered α) (name : String) : Option α := ordered.entries.lookup name

/-- The images of the entries in their order. -/
def map (ordered : Ordered α) (image : String × α → β) : List β := ordered.entries.map image

@[simp] theorem get?_insert_self (ordered : Ordered α) (name : String) (value : α) :
    (ordered.insert name value).get? name = some value := by
  obtain ⟨entries, ascending⟩ := ordered
  show (put name value entries).lookup name = some value
  clear ascending
  induction entries with
  | nil => simp [put]
  | cons entry rest ih =>
    obtain ⟨known, old⟩ := entry
    unfold put
    split
    · simp
    · split
      · simp
      · next different =>
        have : (name == known) = false := by simpa using different
        simp [List.lookup_cons, this, ih]

theorem get?_insert_of_ne {name other : String} (different : other ≠ name) (ordered : Ordered α)
    (value : α) : (ordered.insert name value).get? other = ordered.get? other := by
  obtain ⟨entries, ascending⟩ := ordered
  show (put name value entries).lookup other = entries.lookup other
  clear ascending
  have apart : (other == name) = false := by simpa using different
  induction entries with
  | nil => simp [put, List.lookup_cons, apart]
  | cons entry rest ih =>
    obtain ⟨known, old⟩ := entry
    unfold put
    split
    · simp [List.lookup_cons, apart]
    · split
      · next equal =>
        have equal : name = known := equal
        simp only [← equal, List.lookup_cons, apart]
      · simp [List.lookup_cons, ih]

end Ordered

end Lamplight
