import Lamplight.Membership.Degrees
import Lamplight.Proofs.Catalog
import Lamplight.Proofs.Decimal.Order

/-!
# The dominant category

Going through the degrees of a map, what is kept is the first strongest of the positive ones seen so
far: `Leads` says so of some entries, holds of none, and is kept by every step.  Main statement:
`Degrees.dominant_is_first_strongest`.
-/

namespace Lamplight.Degrees

/-- What is known of the strongest of some entries: there is none when no degree is positive, and
else its degree is positive, above all degrees before it and not below any behind it. -/
def Leads (entries : List (String × Float)) : Option (String × Float) → Prop
  | none => ∀ entry ∈ entries, entry.2 ≤ 0
  | some best => 0 < best.2 ∧ ∃ before after, entries = before ++ best :: after ∧
      (∀ entry ∈ before, entry.2 < best.2) ∧ ∀ entry ∈ after, entry.2 ≤ best.2

namespace Leads

variable {entries : List (String × Float)} {best other : String × Float}

/-- No degree is above the strongest one. -/
theorem le (leads : Leads entries (some best)) : ∀ entry ∈ entries, entry.2 ≤ best.2 := by
  obtain ⟨positive, before, after, rfl, earlier, later⟩ := leads
  intro entry member
  rw [List.mem_append, List.mem_cons] at member
  rcases member with member | rfl | member
  · exact Decimal.number_le_of_lt (earlier entry member)
  · exact Decimal.number_le_refl (Decimal.isNumber_of_lt positive).2
  · exact later entry member

theorem mem (leads : Leads entries (some best)) : best ∈ entries := by
  obtain ⟨-, before, after, rfl, -⟩ := leads
  exact List.mem_append_right before (.head after)

/-- Of two strongest entries, neither is before the other. -/
theorem not_before {before after : List (String × Float)}
    (leads : Leads (before ++ other :: after) (some best))
    (earlier : ∀ entry ∈ before, entry.2 < other.2) : best ∉ before := by
  intro member
  have less := earlier best member
  have least : other.2 ≤ best.2 := leads.le other (List.mem_append_right before (.head after))
  obtain ⟨bestNumber, otherNumber⟩ := Decimal.isNumber_of_lt less
  exact (Decimal.not_lt_iff_le bestNumber otherNumber).mpr least less

/-- There is one strongest entry at most. -/
theorem unique (leads : Leads entries (some best)) (also : Leads entries (some other)) :
    best = other := by
  obtain ⟨-, before, after, split, earlier, -⟩ := id leads
  obtain ⟨-, front, back, cut, sooner, -⟩ := id also
  have notFront : best ∉ front := not_before (cut ▸ leads) sooner
  have notBefore : other ∉ before := not_before (split ▸ also) earlier
  rw [split, List.append_eq_append_iff] at cut
  rcases cut with ⟨gap, rfl, rest⟩ | ⟨gap, rfl, rest⟩
  · cases gap with
    | nil => exact (List.cons.inj rest).1
    | cons first gap =>
      rw [List.cons_append, List.cons.injEq] at rest
      exact absurd (List.mem_append_right before (rest.1 ▸ .head gap)) notFront
  · cases gap with
    | nil => exact (List.cons.inj rest).1.symm
    | cons first gap =>
      rw [List.cons_append, List.cons.injEq] at rest
      exact absurd (List.mem_append_right front (rest.1 ▸ .head gap)) notBefore

/-- The next entry is compared with the strongest of those before it. -/
theorem concat {leader : Option (String × Float)} {entry : String × Float}
    (leads : Leads entries leader) (number : entry.2.isNaN = false) :
    Leads (entries ++ [entry]) (stronger leader entry) := by
  rw [stronger.eq_def]
  split
  · next weak =>
    -- a degree that is not positive is passed over
    cases leader with
    | none => exact List.forall_mem_append.mpr ⟨leads, List.forall_mem_singleton.mpr weak⟩
    | some best =>
      obtain ⟨positive, before, after, rfl, earlier, later⟩ := leads
      have below : entry.2 ≤ best.2 :=
        Decimal.number_le_trans weak (Decimal.number_le_of_lt positive)
      refine ⟨positive, before, after ++ [entry], by simp, earlier, ?_⟩
      exact List.forall_mem_append.mpr ⟨later, List.forall_mem_singleton.mpr below⟩
  · next strong =>
    have positive : 0 < entry.2 := (Decimal.not_le_iff_lt number rfl).mp strong
    cases leader with
    | none =>
      refine ⟨positive, entries, [], rfl, fun other member => ?_, List.forall_mem_nil _⟩
      exact Decimal.number_lt_of_le_of_lt (leads other member) positive
    | some best =>
      dsimp only
      split
      · next below =>
        obtain ⟨bestPositive, before, after, rfl, earlier, later⟩ := leads
        refine ⟨bestPositive, before, after ++ [entry], by simp, earlier, ?_⟩
        exact List.forall_mem_append.mpr ⟨later, List.forall_mem_singleton.mpr below⟩
      · next above =>
        have bestNumber := (Decimal.isNumber_of_lt leads.1).2
        have less : best.2 < entry.2 := (Decimal.not_le_iff_lt number bestNumber).mp above
        refine ⟨positive, entries, [], rfl, fun other member => ?_, List.forall_mem_nil _⟩
        exact Decimal.number_lt_of_le_of_lt (leads.le other member) less

/-- Going through some entries leaves the strongest of them. -/
theorem foldl (numbers : ∀ entry ∈ entries, entry.2.isNaN = false) :
    Leads entries (entries.foldl stronger none) := by
  -- from the back: the last entry is compared with the strongest of all before it
  induction entries using List.reverseRecOn with
  | nil => exact List.forall_mem_nil _
  | append_singleton entries entry ih =>
    rw [List.forall_mem_append, List.forall_mem_singleton] at numbers
    rw [List.foldl_append, List.foldl_cons, List.foldl_nil]
    exact (ih numbers.1).concat numbers.2

end Leads

section Numbers

variable {degrees : Degrees} (numbers : ∀ entry ∈ degrees.entries, entry.2.isNaN = false)
include numbers

theorem dominant_eq_none_iff :
    degrees.dominant = none ↔ ∀ entry ∈ degrees.entries, entry.2 ≤ 0 := by
  have leads : Leads degrees.entries degrees.dominant := .foldl numbers
  constructor
  · intro none
    rwa [none] at leads
  · intro weak
    cases found : degrees.dominant with
    | none => rfl
    | some best =>
      rw [found] at leads
      have positive : 0 < best.2 := leads.1
      exact absurd (weak best leads.mem)
        ((Decimal.not_le_iff_lt (Decimal.isNumber_of_lt positive).2 rfl).mpr positive)

theorem dominant_eq_some_iff {best : String × Float} :
    degrees.dominant = some best ↔ Leads degrees.entries (some best) := by
  have leads : Leads degrees.entries degrees.dominant := .foldl numbers
  constructor
  · intro found
    rwa [found] at leads
  · intro also
    cases found : degrees.dominant with
    | none =>
      have weak := (dominant_eq_none_iff numbers).mp found best also.mem
      have positive : 0 < best.2 := also.1
      exact absurd weak
        ((Decimal.not_le_iff_lt (Decimal.isNumber_of_lt positive).2 rfl).mpr positive)
    | some other =>
      rw [found] at leads
      rw [leads.unique also]

end Numbers

/-- Of degrees that are numbers, none dominates exactly when none is positive.  Else one does: the
one that is positive and not below any other, and the first of those, since all before it are
strictly below. -/
theorem dominant_is_first_strongest (degrees : Degrees)
    (numbers : ∀ entry ∈ degrees.entries, entry.2.isNaN = false) :
    (degrees.dominant = none ↔ ∀ entry ∈ degrees.entries, entry.2 ≤ 0) ∧
    ((∃ entry ∈ degrees.entries, ¬entry.2 ≤ 0) → ∃ best, degrees.dominant = some best) ∧
    ∀ category degree, degrees.dominant = some (category, degree) ↔
      0 < degree ∧ degrees.get? category = some degree ∧
        (∀ entry ∈ degrees.entries, entry.2 ≤ degree) ∧
        ∃ before after, degrees.entries = before ++ (category, degree) :: after ∧
          ∀ entry ∈ before, entry.2 < degree := by
  refine ⟨dominant_eq_none_iff numbers, ?_, fun category degree => ?_⟩
  · rintro ⟨entry, member, strong⟩
    rw [← Option.ne_none_iff_exists']
    exact fun none => strong ((dominant_eq_none_iff numbers).mp none entry member)
  · rw [dominant_eq_some_iff numbers, Catalog.get?_eq_some_iff]
    constructor
    · intro leads
      obtain ⟨positive, before, after, split, earlier, -⟩ := id leads
      exact ⟨positive, leads.mem, leads.le, before, after, split, earlier⟩
    · rintro ⟨positive, -, greatest, before, after, split, earlier⟩
      refine ⟨positive, before, after, split, earlier, fun entry member => ?_⟩
      exact greatest entry (split ▸ List.mem_append_right before (.tail _ member))

/-- Two equal degrees between others: the one that comes first dominates, and not the one that comes
first of all. -/
def twilight : Degrees :=
  Catalog.ofList [("night", 0.25), ("dusk", 0.5), ("dawn", 0.5), ("day", 0)]

theorem dominant_is_first_strongest_twilight :
    (∀ entry ∈ twilight.entries, entry.2.isNaN = false) ∧
    twilight.dominant = some ("dusk", 0.5) ∧
    ∃ best, twilight.dominant = some best := by
  have entries : twilight.entries =
      [("night", 0.25)] ++ ("dusk", 0.5) :: [("dawn", 0.5), ("day", 0)] := by decide +kernel
  have numbers : ∀ entry ∈ twilight.entries, entry.2.isNaN = false := by decide +kernel
  have highest : ∀ entry ∈ twilight.entries, entry.2 ≤ 0.5 := by decide +kernel
  have below : ∀ entry ∈ [("night", (0.25 : Float))], entry.2 < 0.5 := by decide +kernel
  have member : ("dusk", 0.5) ∈ twilight.entries := entries ▸ .tail _ (.head _)
  obtain ⟨-, exists_best, dominates⟩ := dominant_is_first_strongest twilight numbers
  exact ⟨numbers,
    (dominates "dusk" 0.5).mpr ⟨by decide, by decide +kernel, highest, _, _, entries, below⟩,
    exists_best ⟨("dusk", 0.5), member, by decide⟩⟩

end Lamplight.Degrees
