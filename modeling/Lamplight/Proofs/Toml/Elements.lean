import Lamplight.Proofs.Toml.Draft

/-!
# Arrays of tables that are read back

Tables under one header between two brackets, with an empty line between two of them, are read as
the array of these tables.  Comments in front are passed over.  Main statement:
`read_elementsRows`.
-/

namespace Lamplight.Toml

open Text

/-! ## Lines -/

section Lines

variable {rest : List Char} {lines : List Statement} {key : String}
  {entries : List (String × Value)}

/-- A header between two brackets on a line is read as that of the next table of an array. -/
theorem takesLine_element {before : List String} {last : String}
    (short : before.length < nestingLimit) (rest : List Char) :
    TakesLine ('[' :: '[' :: (pathText (before ++ [last]) ++ ']' :: ']' :: '\n' :: rest))
      (.element ⟨before, last⟩) rest := by
  have ends : EndsKey (']' :: ']' :: '\n' :: rest) := rfl
  obtain ⟨path, read, value, left⟩ := reads_keyPath ends rfl short
  refine ⟨'[', _, rfl, rfl, ?_⟩
  rw [statement, read]
  dsimp only
  split
  · next after close =>
    cases left.symm.trans close
    exact toLineEnd_newline (congrArg Statement.element value) rfl
  · next other => exact absurd left (other _)

theorem takesLine_comment {comment : List Char} (each : ∀ char ∈ comment, isPlain char = true)
    (rest : List Char) : TakesLine ('#' :: (comment ++ '\n' :: rest)) .blank rest := by
  have span := Split.span_eq each (rfl : Stops isPlain ('\n' :: rest))
  refine ⟨'#', _, rfl, rfl, ?_⟩
  rw [statement]
  exact toLineEnd_newline rfl (congrArg Split.rest span)

/-- The text of rows on a line each. -/
def rowsChars (rows : List (List Char)) : List Char := rows.flatMap (· ++ ['\n'])

@[simp] theorem rowsChars_cons (row : List Char) (rows : List (List Char)) :
    rowsChars (row :: rows) = row ++ '\n' :: rowsChars rows := by
  simp [rowsChars]

@[simp] theorem rowsChars_append (front back : List (List Char)) :
    rowsChars (front ++ back) = rowsChars front ++ rowsChars back :=
  List.flatMap_append

/-- The rows of comments. -/
def commentRows (comments : List String) : List (List Char) :=
  comments.map fun comment => '#' :: comment.toList

theorem statements_comments {comments : List String}
    (each : ∀ comment ∈ comments, ∀ char ∈ comment.toList, isPlain char = true)
    (others : statements rest = .ok lines) :
    statements (rowsChars (commentRows comments) ++ rest) =
      .ok (comments.map (fun _ => .blank) ++ lines) := by
  induction comments with
  | nil => exact others
  | cons comment comments ih =>
    have shape : rowsChars (commentRows (comment :: comments)) ++ rest =
        '#' :: (comment.toList ++ '\n' :: (rowsChars (commentRows comments) ++ rest)) := by
      simp [commentRows]
    rw [shape]
    exact statements_of_line (takesLine_comment (each comment (.head _)) _)
      (ih fun other member => each other (.tail _ member))

/-- The rows of a table in an array: the header of the array, then the entries. -/
def elementRows (key : String) (entries : List (String × Value)) : List (List Char) :=
  ('[' :: '[' :: (keyText key ++ [']', ']'])) :: entries.map Value.entryChars

/-- The lines of a table in an array. -/
def elementLines (key : String) (entries : List (String × Value)) : List Statement :=
  .element ⟨[], key⟩ :: entries.map assignLine

theorem statements_element (each : ∀ entry ∈ entries, Writable nestingLimit entry.2)
    (others : statements rest = .ok lines) :
    statements (rowsChars (elementRows key entries) ++ rest) =
      .ok (elementLines key entries ++ lines) := by
  have shape : rowsChars (elementRows key entries) ++ rest =
      '[' :: '[' :: (pathText ([] ++ [key]) ++ ']' :: ']' :: '\n' ::
        ((entries.flatMap fun entry => Value.entryChars entry ++ ['\n']) ++ rest)) := by
    simp [elementRows, pathText, rowsChars, List.flatMap_map]
  rw [shape]
  exact statements_of_line (takesLine_element (by decide) _) (statements_entries each others)

/-- The rows of the tables of an array, with an empty one between two of them. -/
def tablesRows (key : String) (tables : List (List (String × Value))) : List (List Char) :=
  [[]].intercalate (tables.map (elementRows key))

theorem rowsChars_tablesRows (key : String) (tables : List (List (String × Value))) :
    rowsChars (tablesRows key tables) =
      ['\n'].intercalate (tables.map fun entries => rowsChars (elementRows key entries)) := by
  induction tables with
  | nil => rfl
  | cons entries others ih =>
    cases others with
    | nil => simp [tablesRows]
    | cons next others => simpa [tablesRows] using ih

/-- The lines of the tables of an array. -/
def tablesLines (key : String) (tables : List (List (String × Value))) : List Statement :=
  [.blank].intercalate (tables.map (elementLines key))

theorem statements_tables (key : String) {tables : List (List (String × Value))}
    (each : ∀ entries ∈ tables, ∀ entry ∈ entries, Writable nestingLimit entry.2) :
    statements (rowsChars (tablesRows key tables)) = .ok (tablesLines key tables) := by
  rw [rowsChars_tablesRows]
  exact statements_intercalate fun entries member => statements_element (each entries member)

end Lines

/-! ## Tables -/

namespace Draft

/-- An array of tables under construction; there is no array without a table. -/
def arrayed (key : String) : List Entries → Entries
  | [] => []
  | element :: elements => [(key, .tables (element :: elements))]

theorem arrayed_append (key : String) (elements : List Entries) (last : Entries) :
    arrayed key (elements ++ [last]) = [(key, .tables (elements ++ [last]))] := by
  cases elements <;> rfl

theorem updateLast_append (change : Entries → Except Fault Entries) (elements : List Entries)
    (last : Entries) :
    updateLast change (elements ++ [last]) =
      (change last).map fun last => elements ++ [last] := by
  induction elements with
  | nil =>
    rw [List.nil_append, updateLast]
    cases change last <;> rfl
  | cons element elements ih =>
    rw [List.cons_append, updateLast, ih]
    · cases change last <;> rfl
    · exact List.append_ne_nil_of_right_ne_nil _ (List.cons_ne_nil _ _)

theorem extend_arrayed (key : String) (elements : List Entries) :
    extend key (arrayed key elements) = .ok (arrayed key (elements ++ [[]])) := by
  cases elements with
  | nil => rfl
  | cons element elements =>
    rw [arrayed, extend, update, if_pos rfl]
    rfl

/-- The last table of an array is a place. -/
theorem Hole.lastTable (key : String) (elements : List Entries) :
    Hole [key] fun inner => arrayed key (elements ++ [inner]) := by
  intro change inner
  have place : descend change [] = change := rfl
  simp only [arrayed_append]
  rw [descend, update, if_pos rfl]
  dsimp only
  rw [place, updateLast_append]
  cases change inner <;> rfl

theorem finishElements_leaves (tables : List (List (String × Value))) :
    finishElements (tables.map leaves) = tables.map .table := by
  induction tables with
  | nil => rfl
  | cons entries tables ih =>
    rw [List.map_cons, finishElements, finishEntries_leaves, ih, List.map_cons]

end Draft

section Tables

variable {tables : List (List (String × Value))}

/-- A header for the next table opens it behind the others, and its entries stand in it. -/
theorem foldlM_elementLines (key : String) {entries : List (String × Value)}
    (distinct : (entries.map Prod.fst).Nodup) (elements : List Draft.Entries)
    (current : List String) :
    (elementLines key entries).foldlM Assembly.add ⟨Draft.arrayed key elements, current⟩ =
      .ok ⟨Draft.arrayed key (elements ++ [Draft.leaves entries]), [key]⟩ := by
  have opened : Assembly.add ⟨Draft.arrayed key elements, current⟩ (.element ⟨[], key⟩) =
      .ok ⟨Draft.arrayed key (elements ++ [[]]), [key]⟩ := by
    rw [Assembly.add, Draft.descend, Draft.extend_arrayed]
    rfl
  have noEntry : ∀ entry ∈ entries, Draft.Fresh entry.1 [] := fun _ _ => List.forall_mem_nil _
  rw [elementLines, List.foldlM_cons, opened]
  exact (Draft.Hole.lastTable key elements).foldlM_assign noEntry distinct

theorem foldlM_tablesLines (key : String)
    (distinct : ∀ entries ∈ tables, (entries.map Prod.fst).Nodup)
    (elements : List Draft.Entries) (current : List String) :
    ∃ place, (tablesLines key tables).foldlM Assembly.add ⟨Draft.arrayed key elements, current⟩ =
      .ok ⟨Draft.arrayed key (elements ++ tables.map Draft.leaves), place⟩ := by
  rw [tablesLines, foldlM_intercalate]
  induction tables generalizing elements current with
  | nil =>
    rw [List.map_nil, List.append_nil]
    exact ⟨current, rfl⟩
  | cons entries others ih =>
    obtain ⟨place, rest⟩ := ih (fun entries member => distinct entries (.tail _ member))
      (elements ++ [Draft.leaves entries]) [key]
    rw [List.append_assoc, List.singleton_append] at rest
    refine ⟨place, ?_⟩
    rw [List.foldlM_cons, foldlM_elementLines key (distinct entries (.head _))]
    exact rest

theorem foldlM_blanks (comments : List String) (assembly : Assembly) :
    (comments.map fun _ => Statement.blank).foldlM Assembly.add assembly = .ok assembly := by
  induction comments with
  | nil => rfl
  | cons comment comments ih => exact ih

/-- The entries of a document that holds nothing but an array of tables. -/
def arrayEntries (key : String) : List (List (String × Value)) → List (String × Value)
  | [] => []
  | entries :: tables => [(key, .array (.table entries :: tables.map .table))]

theorem finishEntries_arrayed (key : String) (tables : List (List (String × Value))) :
    Draft.finishEntries (Draft.arrayed key (tables.map Draft.leaves)) =
      arrayEntries key tables := by
  cases tables with
  | nil => rfl
  | cons entries tables =>
    have finished := Draft.finishElements_leaves (entries :: tables)
    rw [List.map_cons] at finished ⊢
    rw [Draft.arrayed, Draft.finishEntries, Draft.finish, finished]
    rfl

/-- The rows of a document with an array of tables, and with comments in front. -/
def elementsRows (comments : List String) (key : String)
    (tables : List (List (String × Value))) : List (List Char) :=
  commentRows comments ++ [] :: tablesRows key tables

/-- A document of tables with distinct keys is read as the array of these tables. -/
theorem read_elementsRows (key : String) {comments : List String}
    (plain : ∀ comment ∈ comments, ∀ char ∈ comment.toList, isPlain char = true)
    (writable : ∀ entries ∈ tables, ∀ entry ∈ entries, Writable nestingLimit entry.2)
    (distinct : ∀ entries ∈ tables, (entries.map Prod.fst).Nodup) :
    read (String.ofList (rowsChars (elementsRows comments key tables))) =
      .ok (arrayEntries key tables) := by
  have shape : rowsChars (elementsRows comments key tables) =
      rowsChars (commentRows comments) ++ '\n' :: rowsChars (tablesRows key tables) := by
    simp [elementsRows]
  have noMark : ∀ rest, rowsChars (elementsRows comments key tables) ≠ '\ufeff' :: rest := by
    intro rest marked
    cases comments with
    | nil => cases marked
    | cons comment comments => simp [elementsRows, commentRows] at marked
  have lines := statements_comments plain
    (statements_of_line (takesLine_blank _) (statements_tables key writable))
  obtain ⟨place, assembled⟩ := foldlM_tablesLines key distinct [] []
  have folded : (comments.map (fun _ => Statement.blank) ++ .blank ::
      tablesLines key tables).foldlM Assembly.add ⟨[], []⟩ =
        .ok ⟨Draft.arrayed key (tables.map Draft.leaves), place⟩ := by
    rw [List.foldlM_append, foldlM_blanks]
    exact assembled
  rw [read, String.toList_ofList]
  split
  · next marked => exact absurd marked (noMark _)
  · rw [shape, lines]
    show assemble _ = _
    rw [assemble, folded, ← finishEntries_arrayed]
    rfl

end Tables

end Lamplight.Toml
