import Lamplight.Proofs.Toml.Value

/-!
# Documents that are read back

A document written in parts, each with a header and entries under it, is read as the lines it was
written in.  The tables that the lines describe grow at their end: a header opens a table behind
the others of the table around it, and an entry stands behind the entries before it, provided that
its key is new.  Main statements: `read_documentText` and `foldlM_part`.
-/

namespace Lamplight.Toml

open Text

/-! ## Keys -/

section Keys

variable {rest : List Char}

/-- Whether a key can start with a character. -/
def startsKey (char : Char) : Bool := isBare char || char == '"' || char == '\''

theorem starts_keyText (key : String) : Starts startsKey (keyText key) := by
  rw [keyText]
  split
  · next bare =>
    rw [Bool.and_eq_true, Bool.not_eq_true', List.isEmpty_eq_false_iff, List.all_eq_true] at bare
    obtain ⟨char, more, spelled⟩ := List.exists_cons_of_ne_nil bare.1
    rw [spelled] at bare ⊢
    have first := bare.2 char (.head _)
    rw [isBare_eq] at first
    show startsKey char = true
    rw [startsKey, first]
    rfl
  · cases Quotation.ofKey key.toList <;> rfl

theorem beq_of_startsKey {char mark : Char} (starts : startsKey char = true)
    (other : startsKey mark = false) : (char == mark) = false := by
  rw [beq_eq_false_iff_ne]
  rintro rfl
  cases starts.symm.trans other

theorem isBlank_of_startsKey {char : Char} (starts : startsKey char = true) :
    isBlank char = false := by
  rw [isBlank, beq_of_startsKey starts rfl, beq_of_startsKey starts rfl]
  rfl

theorem reads_paddedKey {text : List Char} {key : String}
    (taken : Takes simpleKey? (skipBlanks text) key rest) :
    Reads paddedKey text key (skipBlanks rest) := by
  obtain ⟨found, read, rfl, rfl⟩ := taken
  rw [Reads, paddedKey, read]
  exact ⟨_, rfl, rfl, rfl⟩

theorem reads_paddedKey_keyText (ends : EndsKey rest) (key : String) :
    Reads paddedKey (keyText key ++ rest) key (skipBlanks rest) := by
  apply reads_paddedKey
  rw [skipBlanks_eq_self (((starts_keyText key).append rest).stops fun _ => isBlank_of_startsKey)]
  exact takes_simpleKey? ends key

/-- Keys with dots between them. -/
def pathText (path : List String) : List Char := ['.'].intercalate (path.map keyText)

theorem reads_chain_pathText (ends : EndsKey rest) (noDot : Stops (· == '.') (skipBlanks rest)) :
    ∀ {path : List String}, path ≠ [] →
      Reads (chain (· == '.') paddedKey) (pathText path ++ rest) path (skipBlanks rest)
  | [], nonempty => absurd rfl nonempty
  | [key], _ => by
    have shape : pathText [key] ++ rest = keyText key ++ rest := by simp [pathText]
    rw [shape]
    refine reads_chain_last (reads_paddedKey_keyText ends key) fun symbol member => ?_
    rw [Option.mem_def] at member
    rw [Stops, member] at noDot
    exact noDot
  | key :: next :: others, _ => by
    have shape : pathText (key :: next :: others) ++ rest =
        keyText key ++ '.' :: (pathText (next :: others) ++ rest) := by
      simp [pathText]
    rw [shape]
    exact reads_chain_more (reads_paddedKey_keyText rfl key) rfl
      (reads_chain_pathText ends noDot (List.cons_ne_nil _ _))

theorem starts_pathText {path : List String} (nonempty : path ≠ []) :
    Starts startsKey (pathText path) := by
  obtain ⟨key, others, rfl⟩ := List.exists_cons_of_ne_nil nonempty
  obtain ⟨more, spelled⟩ : ∃ more, pathText (key :: others) = keyText key ++ more := by
    cases others with
    | nil => exact ⟨[], by simp [pathText]⟩
    | cons next others => exact ⟨'.' :: pathText (next :: others), by simp [pathText]⟩
  rw [spelled]
  exact (starts_keyText key).append more

/-- A dotted key is read as its parts. -/
theorem reads_keyPath (ends : EndsKey rest) (noDot : Stops (· == '.') (skipBlanks rest))
    {before : List String} {last : String} (short : before.length < nestingLimit) :
    Reads keyPath (pathText (before ++ [last]) ++ rest) ⟨before, last⟩ (skipBlanks rest) := by
  have nonempty : before ++ [last] ≠ [] :=
    List.append_ne_nil_of_right_ne_nil _ (List.cons_ne_nil _ _)
  obtain ⟨found, read, value, left⟩ := reads_chain_pathText ends noDot nonempty
  have few : ¬nestingLimit < found.value.length := by
    rw [value, List.length_append, List.length_singleton]
    omega
  have parts : found.value.reverse = last :: before.reverse := by
    rw [value, List.reverse_append, List.reverse_singleton, List.singleton_append]
  rw [Reads, keyPath, read]
  dsimp only
  rw [if_neg few]
  split
  · next nothing => cases nothing.symm.trans parts
  · next same =>
    cases same.symm.trans parts
    exact ⟨_, rfl, by rw [List.reverse_reverse], left⟩

end Keys

/-! ## Lines -/

section Lines

variable {depth : Nat} {entry : String × Value} {rest : List Char}

theorem reads_assignment {item : Piece Value} {text afterKey middle : List Char} {key : KeyPath}
    {found : Value} (keyed : Reads keyPath text key ('=' :: afterKey))
    (valued : Reads item (skipBlanks afterKey) found middle) :
    Reads (assignment item) text (key, found) (skipBlanks middle) := by
  obtain ⟨path, readPath, rfl, sign⟩ := keyed
  obtain ⟨image, readImage, rfl, rfl⟩ := valued
  rw [Reads, assignment, readPath]
  dsimp only
  split
  · next again =>
    cases sign.symm.trans again
    rw [readImage]
    exact ⟨_, rfl, rfl, rfl⟩
  · next other => exact absurd sign (other _)

/-- An entry is read as its key and its value. -/
theorem reads_entryChars (writable : Writable depth entry.2) (ends : EndsValue rest) :
    Reads (assignment (value depth)) (Value.entryChars entry ++ rest) (⟨[], entry.1⟩, entry.2)
      (skipBlanks rest) := by
  have shape : Value.entryChars entry ++ rest =
      pathText ([] ++ [entry.1]) ++ ([' '] ++ '=' :: ' ' :: (entry.2.chars ++ rest)) := by
    rw [Value.entryChars]
    simp [pathText]
  have skipped : skipBlanks (' ' :: (entry.2.chars ++ rest)) = entry.2.chars ++ rest :=
    skipBlanks_eq_self (writable.opens rest).noBlank
  rw [shape]
  refine reads_assignment (reads_keyPath rfl rfl (by decide)) ?_
  rw [skipped]
  exact reads_value writable ends

theorem toLineEnd_newline {α : Type} {text : List Char} {found : Found Char α text} {value : α}
    (same : found.value = value) (left : found.rest = '\n' :: rest) :
    ∃ line, toLineEnd found = .ok line ∧ line.value = value ∧ line.rest = rest := by
  obtain ⟨image, after, shorter⟩ := found
  subst same left
  exact ⟨_, rfl, rfl, rfl⟩

/-- The first line of a text, which no blank indents. -/
def TakesLine (text : List Char) (line : Statement) (rest : List Char) : Prop :=
  ∃ char more, text = char :: more ∧ isBlank char = false ∧
    ∃ found, statement char more = .ok found ∧ found.value = line ∧ found.rest = rest

theorem takesLine_blank (rest : List Char) : TakesLine ('\n' :: rest) .blank rest :=
  ⟨'\n', rest, rfl, rfl, _, rfl, rfl, rfl⟩

/-- A header on a line is read as the header of a table. -/
theorem takesLine_header {before : List String} {last : String}
    (short : before.length < nestingLimit) (rest : List Char) :
    TakesLine ('[' :: (pathText (before ++ [last]) ++ ']' :: '\n' :: rest)) (.header ⟨before, last⟩)
      rest := by
  have ends : EndsKey (']' :: '\n' :: rest) := rfl
  obtain ⟨key, read, value, left⟩ := reads_keyPath ends rfl short
  refine ⟨'[', _, rfl, rfl, ?_⟩
  rw [statement]
  · rw [read]
    dsimp only
    split
    · next after close =>
      cases left.symm.trans close
      exact toLineEnd_newline (congrArg Statement.header value) rfl
    · next other => exact absurd left (other _)
  · intro more opened
    have starts : Starts startsKey (pathText (before ++ [last]) ++ ']' :: '\n' :: rest) :=
      (starts_pathText (List.append_ne_nil_of_right_ne_nil _ (List.cons_ne_nil _ _))).append _
    rw [opened] at starts
    cases starts

/-- An entry on a line is read as its key and its value. -/
theorem takesLine_entry (writable : Writable nestingLimit entry.2) (rest : List Char) :
    TakesLine (Value.entryChars entry ++ '\n' :: rest) (.assign ⟨[], entry.1⟩ entry.2) rest := by
  have ends : EndsValue ('\n' :: rest) := rfl
  obtain ⟨found, read, value, left⟩ := reads_entryChars writable ends
  have starts : Starts startsKey (Value.entryChars entry ++ '\n' :: rest) := by
    rw [Value.entryChars, List.append_assoc, List.append_assoc]
    exact (starts_keyText entry.1).append _
  generalize Value.entryChars entry ++ '\n' :: rest = text at found read value left starts ⊢
  cases text with
  | nil => cases starts
  | cons char more =>
    have start : startsKey char = true := starts
    refine ⟨char, more, rfl, isBlank_of_startsKey start, ?_⟩
    rw [statement]
    · rw [read]
      refine toLineEnd_newline ?_ left
      rw [Found.map, value]
    · rintro rfl
      cases start
    · rintro rfl
      cases start
    · rintro rfl
      cases start
    · rintro _ rfl
      cases start
    · rintro _ rfl
      cases start

theorem statements_of_line {text : List Char} {line : Statement} {lines : List Statement}
    (first : TakesLine text line rest) (others : statements rest = .ok lines) :
    statements text = .ok (line :: lines) := by
  obtain ⟨char, more, rfl, noBlank, found, read, rfl, rfl⟩ := first
  have skipped : skipBlanks (char :: more) = char :: more := skipBlanks_eq_self noBlank
  rw [statements]
  split
  · next start => cases skipped.symm.trans start
  · next start =>
    cases skipped.symm.trans start
    rw [read]
    dsimp only
    rw [others]

end Lines

/-! ## Parts -/

/-- A part that can be written and read back. -/
structure Part.Writable (part : Part) : Prop where
  headed : part.path ≠ []
  short : part.path.length ≤ nestingLimit
  each : ∀ entry ∈ part.entries, Toml.Writable nestingLimit entry.2

/-- The line of an entry. -/
def assignLine (entry : String × Value) : Statement := .assign ⟨[], entry.1⟩ entry.2

/-- The lines of a part. -/
def Part.lines (part : Part) : List Statement :=
  .header ⟨part.path.dropLast, part.path.getLastD ""⟩ :: part.entries.map assignLine

/-- The lines of a document: an empty one between two parts. -/
def documentLines (parts : List Part) : List Statement :=
  [.blank].intercalate (parts.map Part.lines)

section Parts

variable {rest : List Char} {lines : List Statement}

theorem statements_entries {entries : List (String × Value)}
    (each : ∀ entry ∈ entries, Writable nestingLimit entry.2)
    (others : statements rest = .ok lines) :
    statements ((entries.flatMap fun entry => Value.entryChars entry ++ ['\n']) ++ rest) =
      .ok (entries.map assignLine ++ lines) := by
  induction entries with
  | nil => exact others
  | cons entry entries ih =>
    rw [List.flatMap_cons, List.append_assoc, List.append_assoc, List.singleton_append]
    exact statements_of_line (takesLine_entry (each entry (.head _)) _)
      (ih fun entry member => each entry (.tail _ member))

theorem Part.Writable.statements_chars {part : Part} (writable : part.Writable)
    (others : statements rest = .ok lines) :
    statements (part.chars ++ rest) = .ok (part.lines ++ lines) := by
  have path : part.path.dropLast ++ [part.path.getLastD ""] = part.path := by
    rw [List.getLastD_eq_getLast?, List.getLast?_eq_getLast_of_ne_nil writable.headed,
      Option.getD_some, List.dropLast_append_getLast]
  have short : part.path.dropLast.length < nestingLimit := by
    have few := writable.short
    have some := List.length_pos_of_ne_nil writable.headed
    rw [List.length_dropLast]
    omega
  have shape : part.chars ++ rest =
      '[' :: (pathText (part.path.dropLast ++ [part.path.getLastD ""]) ++ ']' :: '\n' ::
        ((part.entries.flatMap fun entry => Value.entryChars entry ++ ['\n']) ++ rest)) := by
    rw [path, Part.chars, pathText]
    simp
  rw [shape]
  exact statements_of_line (takesLine_header short _) (statements_entries writable.each others)

theorem statements_nil : statements [] = .ok [] := by
  rw [statements]
  rfl

/-- Pieces with an empty line between two of them are read piece by piece. -/
theorem statements_intercalate {α : Type} {chars : α → List Char} {lines : α → List Statement}
    {pieces : List α}
    (each : ∀ piece ∈ pieces, ∀ {rest : List Char} {others : List Statement},
      statements rest = .ok others →
        statements (chars piece ++ rest) = .ok (lines piece ++ others)) :
    statements (['\n'].intercalate (pieces.map chars)) =
      .ok ([.blank].intercalate (pieces.map lines)) := by
  induction pieces with
  | nil => exact statements_nil
  | cons piece others ih =>
    have first := @each piece (.head _)
    cases others with
    | nil => simpa using first statements_nil
    | cons next others =>
      have blank := statements_of_line (takesLine_blank _)
        (ih fun piece member => each piece (.tail _ member))
      simpa using first blank

theorem statements_document {parts : List Part} (each : ∀ part ∈ parts, part.Writable) :
    statements (['\n'].intercalate (parts.map Part.chars)) = .ok (documentLines parts) :=
  statements_intercalate fun part member => (each part member).statements_chars

/-- A document is read as the tables that its lines describe. -/
theorem read_documentText {parts : List Part} (each : ∀ part ∈ parts, part.Writable) :
    read (documentText parts) = assemble (documentLines parts) := by
  have noMark : ∀ rest, ['\n'].intercalate (parts.map Part.chars) ≠ '\ufeff' :: rest := by
    intro rest marked
    match parts with
    | [] => cases marked
    | [part] => simp [Part.chars] at marked
    | part :: next :: others => simp [Part.chars] at marked
  rw [read, documentText, String.toList_ofList]
  split
  · next marked => exact absurd marked (noMark _)
  · rw [statements_document each]
    rfl

end Parts

end Lamplight.Toml
