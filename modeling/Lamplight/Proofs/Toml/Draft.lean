import Lamplight.Proofs.Toml.Document

/-!
# Tables that grow at their end

A header whose key is new opens a table behind the other entries of the table around it, and an
entry whose key is new stands behind the entries before it.  `Hole` says that a path of headers
leads to a place in the tables read so far, whatever stands there.  Main statements:
`Hole.foldlM_part`, what a part of a document adds to the tables, and `foldlM_documentLines`.
-/

namespace Lamplight.Toml

namespace Draft

/-- Whether no entry has a key. -/
def Fresh (key : String) (entries : Entries) : Prop := ∀ entry ∈ entries, entry.1 ≠ key

section Update

variable {key : String} {change : Option Draft → Except Fault Draft} {front : Entries}

theorem update_of_fresh (fresh : Fresh key front) :
    update key change front = (change none).map fun draft => front ++ [(key, draft)] := by
  induction front with
  | nil =>
    rw [update]
    cases change none <;> rfl
  | cons entry front ih =>
    rw [update, if_neg (fresh entry (.head _)), ih fun entry member => fresh entry (.tail _ member)]
    cases change none <;> rfl

theorem update_last (fresh : Fresh key front) (draft : Draft) :
    update key change (front ++ [(key, draft)]) =
      (change (some draft)).map fun draft => front ++ [(key, draft)] := by
  induction front with
  | nil =>
    rw [List.nil_append, update, if_pos rfl]
    cases change (some draft) <;> rfl
  | cons entry front ih =>
    rw [List.cons_append, update, if_neg (fresh entry (.head _)),
      ih fun entry member => fresh entry (.tail _ member)]
    cases change (some draft) <;> rfl

end Update

theorem descend_append (change : Entries → Except Fault Entries) (path inner : List String)
    (entries : Entries) :
    descend change (path ++ inner) entries = descend (descend change inner) path entries := by
  induction path generalizing entries with
  | nil => rfl
  | cons step path ih =>
    have same : descend change (path ++ inner) = descend (descend change inner) path := funext ih
    rw [List.cons_append, descend, descend, same]

/-- A path of headers leads to a place in the tables around it: to change what the path leads to is
to change what stands in the place. -/
def Hole (path : List String) (around : Entries → Entries) : Prop :=
  ∀ change inner, descend change path (around inner) = (change inner).map around

namespace Hole

variable {path : List String} {around : Entries → Entries} {front : Entries} {last : String}

/-- The document itself is a place. -/
theorem nil : Hole [] id := by
  intro change inner
  rw [descend, Except.map_id, id, id]

/-- The last table of a place is a place. -/
theorem table (hole : Hole path around) (fresh : Fresh last front) (origin : Origin) :
    Hole (path ++ [last]) fun inner => around (front ++ [(last, .table origin inner)]) := by
  intro change inner
  have place : descend change [] inner = change inner := rfl
  rw [descend_append, hole, descend, update_last fresh]
  dsimp only
  rw [place]
  cases change inner <;> rfl

/-- A header with a new key opens a table at the end of the table around it. -/
theorem add_header (hole : Hole path around) (fresh : Fresh last front) (current : List String) :
    Assembly.add ⟨around front, current⟩ (.header ⟨path, last⟩) =
      .ok ⟨around (front ++ [(last, .table .defined [])]), path ++ [last]⟩ := by
  rw [Assembly.add, hole, define, update_of_fresh fresh]
  rfl

/-- An entry with a new key stands behind the others. -/
theorem add_assign (hole : Hole path around) {entry : String × Value}
    (fresh : Fresh entry.1 front) :
    Assembly.add ⟨around front, path⟩ (assignLine entry) =
      .ok ⟨around (front ++ [(entry.1, .leaf entry.2)]), path⟩ := by
  rw [assignLine, Assembly.add, hole, insertValue, addValue, if_neg (by decide),
    update_of_fresh fresh]
  rfl

end Hole

/-- Entries as they stand in a table under construction. -/
def leaves (entries : List (String × Value)) : Entries :=
  entries.map fun entry => (entry.1, .leaf entry.2)

/-- A table with a header of its own and with entries, under its key. -/
def headed (key : String) (entries : List (String × Value)) : String × Draft :=
  (key, .table .defined (leaves entries))

@[simp] theorem finishEntries_leaves (entries : List (String × Value)) :
    finishEntries (leaves entries) = entries := by
  induction entries with
  | nil => rfl
  | cons entry entries ih =>
    rw [leaves, List.map_cons, finishEntries, finish]
    exact congrArg (entry :: ·) ih

namespace Hole

variable {path : List String} {around : Entries → Entries} {front : Entries} {last : String}

/-- Entries with new keys stand behind the others in their order. -/
theorem foldlM_assign (hole : Hole path around) {entries : List (String × Value)}
    (fresh : ∀ entry ∈ entries, Fresh entry.1 front) (distinct : (entries.map Prod.fst).Nodup) :
    (entries.map assignLine).foldlM Assembly.add ⟨around front, path⟩ =
      .ok ⟨around (front ++ leaves entries), path⟩ := by
  induction entries generalizing front with
  | nil =>
    have none : leaves [] = [] := rfl
    rw [none, List.append_nil]
    rfl
  | cons entry entries ih =>
    obtain ⟨new, distinct⟩ := List.nodup_cons.mp distinct
    have stillFresh : ∀ other ∈ entries, Fresh other.1 (front ++ [(entry.1, .leaf entry.2)]) := by
      intro other member known knownIn
      rcases List.mem_append.mp knownIn with before | here
      · exact fresh other (.tail _ member) known before
      · rw [List.mem_singleton.mp here]
        exact fun same => new (same ▸ List.mem_map_of_mem member)
    have shape : front ++ leaves (entry :: entries) =
        front ++ [(entry.1, .leaf entry.2)] ++ leaves entries := by
      simp [leaves]
    rw [List.map_cons, List.foldlM_cons, hole.add_assign (fresh entry (.head _)), shape]
    exact ih stillFresh distinct

/-- A part with a new header and distinct keys stands behind the others. -/
theorem foldlM_part (hole : Hole path around) (fresh : Fresh last front)
    {entries : List (String × Value)} (distinct : (entries.map Prod.fst).Nodup)
    (current : List String) :
    (Part.lines ⟨path ++ [last], entries⟩).foldlM Assembly.add ⟨around front, current⟩ =
      .ok ⟨around (front ++ [headed last entries]), path ++ [last]⟩ := by
  have inside := hole.table fresh .defined
  have noEntry : ∀ entry ∈ entries, Fresh entry.1 [] := fun _ _ => List.forall_mem_nil _
  rw [Part.lines, List.dropLast_concat, List.getLastD_concat, List.foldlM_cons,
    hole.add_header fresh]
  exact inside.foldlM_assign noEntry distinct

end Hole

end Draft

/-- Pieces with an empty line between two of them add piece by piece to the tables. -/
theorem foldlM_intercalate {α : Type} (lines : α → List Statement) (pieces : List α)
    (assembly : Assembly) :
    ([.blank].intercalate (pieces.map lines)).foldlM Assembly.add assembly =
      pieces.foldlM (fun assembly piece => (lines piece).foldlM Assembly.add assembly)
        assembly := by
  induction pieces generalizing assembly with
  | nil => rfl
  | cons piece others ih =>
    cases others with
    | nil => simp
    | cons next others =>
      have shape : [.blank].intercalate ((piece :: next :: others).map lines) =
          lines piece ++ .blank :: [.blank].intercalate ((next :: others).map lines) := by
        simp
      rw [shape, List.foldlM_append, List.foldlM_cons]
      exact congrArg _ (funext fun middle => ih middle)

/-- The lines of a document add part by part to the tables. -/
theorem foldlM_documentLines (parts : List Part) (assembly : Assembly) :
    (documentLines parts).foldlM Assembly.add assembly =
      parts.foldlM (fun assembly part => part.lines.foldlM Assembly.add assembly) assembly :=
  foldlM_intercalate Part.lines parts assembly

theorem foldlM_parts_cons {part : Part} {others : List Part} {before middle : Assembly}
    {after : Except Fault Assembly} (first : part.lines.foldlM Assembly.add before = .ok middle)
    (rest : others.foldlM (fun assembly part => part.lines.foldlM Assembly.add assembly) middle =
      after) :
    (part :: others).foldlM (fun assembly part => part.lines.foldlM Assembly.add assembly) before =
      after := by
  rw [List.foldlM_cons, first]
  exact rest

end Lamplight.Toml
