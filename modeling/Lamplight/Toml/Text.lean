import Lamplight.Scan
import Lamplight.Text.Split

/-!
# Texts and keys of TOML

The four kinds of texts, with double quotes or single ones, on one line or several, and the
keys.  Each function here reads from the start of its input, just behind the opening quotes.
-/

namespace Lamplight.Toml

open Text

/-- A reading of characters, if there is one. -/
abbrev Piece? (α : Type) := (text : List Char) → Option (Found Char α text)

/-- Whether a character may stand in a comment or a text: a tab, or anything that is no
control character. -/
def isPlain (char : Char) : Bool :=
  char == '\t' || (0x20 ≤ char.toNat && char.toNat ≠ 0x7F)

/-- Whether a character is a blank within a line. -/
def isBlank (char : Char) : Bool := char == ' ' || char == '\t'

/-- A text without the blanks of a line at its start. -/
def skipBlanks (text : List Char) : List Char := (Split.span isBlank text).rest

theorem length_skipBlanks_le (text : List Char) : (skipBlanks text).length ≤ text.length :=
  (Split.span isBlank text).length_rest_le

/-- The end of a line. -/
def newline? : Piece? Unit
  | '\n' :: _ => some (.head ())
  | '\r' :: '\n' :: _ => some (.behind (.head ()))
  | _ => none

/-- A text without the blanks and line ends at its start. -/
def skipLines : List Char → List Char
  | ' ' :: rest => skipLines rest
  | '\t' :: rest => skipLines rest
  | '\n' :: rest => skipLines rest
  | '\r' :: '\n' :: rest => skipLines rest
  | text => text

theorem length_skipLines_le (text : List Char) : (skipLines text).length ≤ text.length := by
  fun_induction skipLines text <;> (try simp only [List.length_cons]) <;> omega

/-- The value of a hexadecimal digit. -/
def hexDigit? (char : Char) : Option Nat :=
  if char.isDigit then some (char.toNat - '0'.toNat)
  else if 'a' ≤ char && char ≤ 'f' then some (char.toNat - 'a'.toNat + 10)
  else if 'A' ≤ char && char ≤ 'F' then some (char.toNat - 'A'.toNat + 10)
  else none

/-- The character with a number of so many hexadecimal digits. -/
def codePoint? (count : Nat) (text : List Char) : Option (Char × List Char) := do
  let digits ← (text.take count).mapM hexDigit?
  let code := digits.foldl (fun value digit => 16 * value + digit) 0
  if digits.length = count ∧ code.isValidChar then some (Char.ofNat code, text.drop count)
  else none

/-- A character written with a backslash, which is gone. -/
def escape? : List Char → Option (Char × List Char)
  | 'b' :: rest => some ('\x08', rest)
  | 't' :: rest => some ('\t', rest)
  | 'n' :: rest => some ('\n', rest)
  | 'f' :: rest => some ('\x0c', rest)
  | 'r' :: rest => some ('\r', rest)
  | '"' :: rest => some ('"', rest)
  | '\\' :: rest => some ('\\', rest)
  | 'u' :: rest => codePoint? 4 rest
  | 'U' :: rest => codePoint? 8 rest
  | _ => none

theorem length_of_codePoint? {count : Nat} {text rest : List Char} {char : Char}
    (found : codePoint? count text = some (char, rest)) : rest.length ≤ text.length := by
  simp only [codePoint?, Option.bind_eq_bind, Option.bind_eq_some_iff] at found
  obtain ⟨digits, _, found⟩ := found
  split at found
  · simp only [Option.some.injEq, Prod.mk.injEq] at found
    rw [← found.2]
    simp
  · cases found

theorem length_of_escape? {text rest : List Char} {char : Char}
    (found : escape? text = some (char, rest)) : rest.length < text.length := by
  unfold escape? at found
  split at found
  any_goals
    simp only [Option.some.injEq, Prod.mk.injEq] at found
    rw [← found.2]
    simp
  · have := length_of_codePoint? found; simp only [List.length_cons]; omega
  · have := length_of_codePoint? found; simp only [List.length_cons]; omega
  · cases found

/-- The inside of a text between double quotes on one line. -/
def basicBody? : Piece? (List Char)
  | [] => none
  | '"' :: _ => some (.head [])
  | '\\' :: rest =>
    match escape : escape? rest with
    | none => none
    | some (char, rest') =>
      have : rest'.length < rest.length := length_of_escape? escape
      (basicBody? rest').map fun body =>
        ⟨char :: body.value, body.rest, by
          have := body.shorter; simp only [List.length_cons]; omega⟩
  | char :: rest =>
    if isPlain char then
      (basicBody? rest).map fun body => (body.map (char :: ·)).behind
    else none
termination_by text => text.length

/-- The inside of a text between single quotes on one line. -/
def literalBody? : Piece? (List Char)
  | [] => none
  | '\'' :: _ => some (.head [])
  | char :: rest =>
    if isPlain char then
      (literalBody? rest).map fun body => (body.map (char :: ·)).behind
    else none

/-- The end of a text between triple quotes: the three quotes, with up to two more before
them that belong to the text. -/
def closing? (quote : Char) : Piece? (List Char)
  | a :: b :: c :: rest =>
    if a = quote ∧ b = quote ∧ c = quote then
      match rest with
      | d :: e :: _ =>
        if d = quote ∧ e = quote then some (Found.head [quote, quote]).behind.behind.behind.behind
        else if d = quote then some (Found.head [quote]).behind.behind.behind
        else some (Found.head []).behind.behind
      | [d] =>
        if d = quote then some (Found.head [quote]).behind.behind.behind
        else some (Found.head []).behind.behind
      | [] => some (Found.head []).behind.behind
    else none
  | _ => none

/-- The inside of a text between triple double quotes.  A backslash at the end of a line
joins it to the next text that is no blank. -/
def longBasicBody? : Piece? (List Char) := fun text =>
  match closing? '"' text with
  | some closed => some closed
  | none =>
    match text with
    | [] => none
    | '\\' :: rest =>
      match joined : newline? (skipBlanks rest) with
      | some next =>
        have : (skipLines next.rest).length < rest.length + 1 := by
          have := length_skipLines_le next.rest
          have := next.shorter
          have := length_skipBlanks_le rest
          omega
        (longBasicBody? (skipLines next.rest)).map fun body =>
          ⟨body.value, body.rest, by
            have := body.shorter; simp only [List.length_cons]; omega⟩
      | none =>
        match escape : escape? rest with
        | none => none
        | some (char, rest') =>
          have : rest'.length < rest.length := length_of_escape? escape
          (longBasicBody? rest').map fun body =>
            ⟨char :: body.value, body.rest, by
              have := body.shorter; simp only [List.length_cons]; omega⟩
    | '\r' :: '\n' :: rest =>
      (longBasicBody? rest).map fun body => (body.map ('\n' :: ·)).behind.behind
    | char :: rest =>
      if isPlain char || char = '\n' then
        (longBasicBody? rest).map fun body => (body.map (char :: ·)).behind
      else none
termination_by text => text.length

/-- The inside of a text between triple single quotes. -/
def longLiteralBody? : Piece? (List Char) := fun text =>
  match closing? '\'' text with
  | some closed => some closed
  | none =>
    match text with
    | [] => none
    | '\r' :: '\n' :: rest =>
      (longLiteralBody? rest).map fun body => (body.map ('\n' :: ·)).behind.behind
    | char :: rest =>
      if isPlain char || char = '\n' then
        (longLiteralBody? rest).map fun body => (body.map (char :: ·)).behind
      else none
termination_by text => text.length

/-- A text without the line end at its start, if there is one. -/
def skipNewline (text : List Char) : List Char :=
  match newline? text with
  | some found => found.rest
  | none => text

theorem length_skipNewline_le (text : List Char) :
    (skipNewline text).length ≤ text.length := by
  unfold skipNewline
  split
  · next found _ => exact Nat.le_of_lt found.shorter
  · exact Nat.le_refl _

/-- A text of any kind.  A line end just behind triple quotes does not count. -/
def text? : Piece? String
  | '"' :: '"' :: '"' :: rest =>
    (longBasicBody? (skipNewline rest)).map fun body =>
      ⟨String.ofList body.value, body.rest, by
        have := body.shorter
        have := length_skipNewline_le rest
        simp only [List.length_cons]; omega⟩
  | '\'' :: '\'' :: '\'' :: rest =>
    (longLiteralBody? (skipNewline rest)).map fun body =>
      ⟨String.ofList body.value, body.rest, by
        have := body.shorter
        have := length_skipNewline_le rest
        simp only [List.length_cons]; omega⟩
  | '"' :: rest => (basicBody? rest).map fun body => (body.map String.ofList).behind
  | '\'' :: rest => (literalBody? rest).map fun body => (body.map String.ofList).behind
  | _ => none

/-- Whether a character may stand in a key without quotes. -/
def isBare (char : Char) : Bool := char.isAlphanum || char == '-' || char == '_'

/-- A key, or one part of a dotted key. -/
def simpleKey? : Piece? String
  | [] => none
  | '"' :: rest => (basicBody? rest).map fun body => (body.map String.ofList).behind
  | '\'' :: rest => (literalBody? rest).map fun body => (body.map String.ofList).behind
  | char :: rest =>
    let split := (Split.span isBare rest).push char
    if isBare char then
      some ⟨String.ofList split.front, split.rest,
        split.length_rest_lt (by simp [split, Split.push])⟩
    else none

end Lamplight.Toml
