import Lamplight.Toml.Draft
import Lamplight.Toml.Number

/-!
# From text to TOML documents

A document is a list of statements, one to a line: headers, and keys with values.
`statements` reads them, `assemble` builds the tables they describe, and `read` does both.
-/

namespace Lamplight.Toml

open Text

/-- A scanner of document pieces. -/
abbrev Piece (α : Type) := Scanner Char Fault α

/-- How many arrays and inline tables may enclose a value, and how many parts a key may
have. -/
def nestingLimit : Nat := 79

/-- The failure to read on. -/
def stuck {α : Type} (text : List Char) : Except Fault α := .error (.unexpected text.length)

/-- A reading as a scanner's result. -/
def require {α : Type} (text : List Char) :
    Option (Found Char α text) → Except Fault (Found Char α text)
  | some found => .ok found
  | none => stuck text

/-- A text without the comment at its start, if one is there. -/
def skipComment (text : List Char) : List Char :=
  match text with
  | '#' :: rest => (Split.span isPlain rest).rest
  | text => text

theorem length_skipComment_le (text : List Char) : (skipComment text).length ≤ text.length := by
  unfold skipComment
  split
  · next rest => exact Nat.le_succ_of_le (Split.span isPlain rest).length_rest_le
  · exact Nat.le_refl _

/-- A text without the blanks, line ends and whole-line comments at its start. -/
def skipGap (text : List Char) : List Char :=
  match newline? (skipComment (skipBlanks text)) with
  | none => skipBlanks text
  | some next =>
    have : next.rest.length < text.length :=
      Nat.lt_of_lt_of_le next.shorter
        (Nat.le_trans (length_skipComment_le _) (length_skipBlanks_le text))
    skipGap next.rest
termination_by text.length

theorem length_skipGap_le (text : List Char) : (skipGap text).length ≤ text.length := by
  fun_induction skipGap text with
  | case1 text => exact length_skipBlanks_le text
  | case2 text next _ within ih => omega

/-- The last key of a dotted key and those before it. -/
structure KeyPath where
  before : List String
  last : String
  deriving Repr, DecidableEq

/-- A key with blanks around it. -/
def paddedKey : Piece String := fun text =>
  match simpleKey? (skipBlanks text) with
  | none => stuck text
  | some found =>
    have within : (skipBlanks found.rest).length < text.length :=
      Nat.lt_of_le_of_lt (length_skipBlanks_le _)
        (Nat.lt_of_lt_of_le found.shorter (length_skipBlanks_le text))
    .ok ⟨found.value, skipBlanks found.rest, within⟩

/-- A key, dotted or not. -/
def keyPath : Piece KeyPath := fun text =>
  match chain (· == '.') paddedKey text with
  | .error fault => .error fault
  | .ok keys =>
    if nestingLimit < keys.value.length then .error .tooDeep
    else
      match keys.value.reverse with
      | [] => stuck text
      | last :: before => .ok ⟨⟨before.reverse, last⟩, keys.rest, keys.shorter⟩

/-- A key and its value, with an equals sign between them and blanks behind. -/
def assignment (value : Piece Value) : Piece (KeyPath × Value) := fun text =>
  match keyPath text with
  | .error fault => .error fault
  | .ok key =>
    match sign : key.rest with
    | '=' :: rest =>
      match value (skipBlanks rest) with
      | .error fault => .error fault
      | .ok found =>
        .ok ⟨(key.value, found.value), skipBlanks found.rest, by
          have := length_skipBlanks_le found.rest
          have := found.shorter
          have := length_skipBlanks_le rest
          have := key.shorter
          simp only [sign, List.length_cons] at this
          omega⟩
    | rest => stuck rest

/-- The values of an array behind its bracket.  A comma may stand behind the last one. -/
def arrayItems (value : Piece Value) : Piece (List Value) := fun text =>
  match start : skipGap text with
  | [] => stuck []
  | ']' :: rest => .ok ⟨[], rest, by
      have := length_skipGap_le text
      simp only [start, List.length_cons] at this
      omega⟩
  | char :: more =>
    match value (char :: more) with
    | .error fault => .error fault
    | .ok first =>
      have within : (skipGap first.rest).length < text.length := by
        have := length_skipGap_le first.rest
        have := first.shorter
        have := length_skipGap_le text
        rw [start] at this
        omega
      match next : skipGap first.rest with
      | ',' :: rest =>
        have : rest.length < text.length := by
          simp only [next, List.length_cons] at within
          omega
        match arrayItems value rest with
        | .error fault => .error fault
        | .ok others =>
          .ok ⟨first.value :: others.value, others.rest, Nat.lt_trans others.shorter this⟩
      | ']' :: rest => .ok ⟨[first.value], rest, by
          simp only [next, List.length_cons] at within
          omega⟩
      | rest => stuck rest
termination_by text => text.length

/-- The entries of an inline table from its first key on, up to the closing brace. -/
def inlineEntries (value : Piece Value) (entries : Draft.Entries) : Piece Draft.Entries :=
  fun text =>
    match assignment value text with
    | .error fault => .error fault
    | .ok first =>
      match Draft.insertValue first.value.1.before first.value.1.last first.value.2 entries with
      | .error fault => .error fault
      | .ok entries =>
        match next : first.rest with
        | ',' :: rest =>
          have within : rest.length < text.length := by
            have := first.shorter
            simp only [next, List.length_cons] at this
            omega
          match inlineEntries value entries rest with
          | .error fault => .error fault
          | .ok others => .ok ⟨others.value, others.rest, Nat.lt_trans others.shorter within⟩
        | '}' :: rest => .ok ⟨entries, rest, by
            have := first.shorter
            simp only [next, List.length_cons] at this
            omega⟩
        | rest => stuck rest
termination_by text => text.length

/-- An inline table behind its brace. -/
def inlineTable (value : Piece Value) : Piece Value := fun text =>
  match start : skipBlanks text with
  | '}' :: rest => .ok ⟨.table [], rest, by
      have := length_skipBlanks_le text
      simp only [start, List.length_cons] at this
      omega⟩
  | _ => (inlineEntries value [] text).map fun found =>
      found.map fun entries => .table (Draft.finishEntries entries)

/-- A number or a moment. -/
def numeric? : Piece? Value := fun text =>
  ((moment? text).map (·.map .moment)).or <|
    ((float? text).map (·.map .number)).or <|
      (integer? text).map (·.map .integer)

/-- A value that is neither an array nor a table. -/
def scalar? : Piece? Value
  | '"' :: rest => (text? ('"' :: rest)).map (·.map .text)
  | '\'' :: rest => (text? ('\'' :: rest)).map (·.map .text)
  | 't' :: 'r' :: 'u' :: 'e' :: _ => some (Found.head (.bool true)).behind.behind.behind
  | 'f' :: 'a' :: 'l' :: 's' :: 'e' :: _ =>
    some (Found.head (.bool false)).behind.behind.behind.behind
  | text => numeric? text

/-- A value within which arrays and inline tables enclose one another at most `depth`
times. -/
def value : (depth : Nat) → Piece Value
  | 0, '[' :: _ => .error .tooDeep
  | 0, '{' :: _ => .error .tooDeep
  | depth + 1, '[' :: rest => (arrayItems (value depth) rest).map (·.behind.map .array)
  | depth + 1, '{' :: rest => (inlineTable (value depth) rest).map (·.behind)
  | _, text => require text (scalar? text)

/-- A line of a document. -/
inductive Statement
  | blank
  /-- The header of a table. -/
  | header (path : KeyPath)
  /-- The header of the next table of an array. -/
  | element (path : KeyPath)
  | assign (path : KeyPath) (value : Value)

/-- A reading that goes on to the start of the next line: only blanks and a comment may stand
behind it. -/
def toLineEnd {α : Type} {text : List Char} (found : Found Char α text) :
    Except Fault (Found Char α text) :=
  let left := skipComment (skipBlanks found.rest)
  have within : left.length ≤ found.rest.length :=
    Nat.le_trans (length_skipComment_le _) (length_skipBlanks_le _)
  match left, within with
  | [], within => .ok (found.upTo [] within)
  | char :: more, within =>
    match newline? (char :: more) with
    | some next => .ok (found.upTo next.rest (Nat.le_trans (Nat.le_of_lt next.shorter) within))
    | none => stuck (char :: more)

/-- The line that starts with a given character, without blanks before it. -/
def statement (char : Char) (rest : List Char) :
    Except Fault (Found Char Statement (char :: rest)) :=
  match char, rest with
  | '#', rest => toLineEnd ⟨.blank, (Split.span isPlain rest).rest,
      Nat.lt_succ_of_le (Split.span isPlain rest).length_rest_le⟩
  | '\n', _ => .ok (.head .blank)
  | '[', '[' :: rest =>
    match keyPath rest with
    | .error fault => .error fault
    | .ok key =>
      match close : key.rest with
      | ']' :: ']' :: after => toLineEnd ⟨.element key.value, after, by
          have := key.shorter
          simp only [close, List.length_cons] at this ⊢
          omega⟩
      | left => stuck left
  | '[', rest =>
    match keyPath rest with
    | .error fault => .error fault
    | .ok key =>
      match close : key.rest with
      | ']' :: after => toLineEnd ⟨.header key.value, after, by
          have := key.shorter
          simp only [close, List.length_cons] at this ⊢
          omega⟩
      | left => stuck left
  | '\r', '\n' :: _ => .ok (.behind (.head .blank))
  | char, rest =>
    match assignment (value nestingLimit) (char :: rest) with
    | .error fault => .error fault
    | .ok found => toLineEnd (found.map fun (key, value) => .assign key value)

/-- The lines of a document. -/
def statements (text : List Char) : Except Fault (List Statement) :=
  match start : skipBlanks text with
  | [] => .ok []
  | char :: rest =>
    match statement char rest with
    | .error fault => .error fault
    | .ok line =>
      have : line.rest.length < text.length :=
        Nat.lt_of_lt_of_le line.shorter (start ▸ length_skipBlanks_le text)
      match statements line.rest with
      | .error fault => .error fault
      | .ok lines => .ok (line.value :: lines)
termination_by text.length

/-- The tables of the lines read so far, and the header that the next keys belong to. -/
structure Assembly where
  entries : Draft.Entries
  section_ : List String

/-- Take one line into the tables. -/
def Assembly.add (assembly : Assembly) : Statement → Except Fault Assembly
  | .blank => .ok assembly
  | .header path => do
    let entries ← Draft.descend (Draft.define path.last) path.before assembly.entries
    return ⟨entries, path.before ++ [path.last]⟩
  | .element path => do
    let entries ← Draft.descend (Draft.extend path.last) path.before assembly.entries
    return ⟨entries, path.before ++ [path.last]⟩
  | .assign path value => do
    let entries ← Draft.descend (Draft.insertValue path.before path.last value)
      assembly.section_ assembly.entries
    return { assembly with entries }

/-- The entries of the document that the lines describe. -/
def assemble (lines : List Statement) : Except Fault (List (String × Value)) := do
  let assembly ← lines.foldlM Assembly.add ⟨[], []⟩
  return Draft.finishEntries assembly.entries

/-- The entries of the document that a text spells.  A byte order mark at its start does not
count. -/
def read (document : String) : Except Fault (List (String × Value)) := do
  let text :=
    match document.toList with
    | '\ufeff' :: rest => rest
    | text => text
  assemble (← statements text)

end Lamplight.Toml
