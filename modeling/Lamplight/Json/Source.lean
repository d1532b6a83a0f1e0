import Lamplight.Scan
import Lamplight.Text.Split

/-!
# The syntax of JSON

`Json.Source` is a JSON document taken apart and not yet interpreted: numbers and texts are
kept as spelled, members in the order in which they stand.  A document may hold spellings
without a value, such as a number past the largest finite one, in places where nobody asks
for the value.
-/

namespace Lamplight.Json

open Text

/-- What is wrong with a document. -/
inductive Fault
  /-- A character that the syntax does not allow; so many characters are left. -/
  | unexpected (left : Nat)
  /-- Containers inside too many others. -/
  | tooDeep
  /-- A number past the largest finite one. -/
  | outOfRange (spelling : String)
  /-- Half of a pair of surrogates. -/
  | loneSurrogate
  /-- A value of a kind that is not wanted in its place. -/
  | unwanted
  deriving Repr, DecidableEq

/-- What is wrong with a document, in words. -/
def Fault.message : Fault → String
  | .unexpected left => s!"unexpected text {left} characters before the end"
  | .tooDeep => "recursion limit exceeded"
  | .outOfRange spelling => s!"number out of range: {spelling}"
  | .loneSurrogate => "lone surrogate in a text"
  | .unwanted => "unexpected kind of value"

/-- A JSON document taken apart. -/
inductive Source
  | null
  | bool (value : Bool)
  | number (spelling : List Char)
  | text (spelling : List Char)
  | array (items : List Source)
  | object (members : List (List Char × Source))
  deriving Repr, Inhabited

namespace Grammar

/-- Whether a character may stand between the pieces of a document. -/
def isBlank (char : Char) : Bool :=
  char == ' ' || char == '\t' || char == '\n' || char == '\r'

/-- A text without the blanks at its start. -/
def skipBlanks (text : List Char) : List Char := (Split.span isBlank text).rest

theorem length_skipBlanks_le (text : List Char) :
    (skipBlanks text).length ≤ text.length :=
  (Split.span isBlank text).length_rest_le

/-- A scanner of document pieces. -/
abbrev Piece (α : Type) := Scanner Char Fault α

/-- The same reading with the blanks after it left out. -/
def trim {α : Type} {text : List Char} (found : Found Char α text) : Found Char α text :=
  found.upTo (skipBlanks found.rest) (length_skipBlanks_le _)

/-- A hexadecimal digit. -/
def isHexDigit (char : Char) : Bool :=
  char.isDigit || ('a' ≤ char && char ≤ 'f') || ('A' ≤ char && char ≤ 'F')

/-- The inside of a text, whose opening quote is gone: what stands before the closing one. -/
def textBody : Piece (List Char)
  | [] => .error (.unexpected 0)
  | '"' :: _ => .ok (.head [])
  | '\\' :: 'u' :: a :: b :: c :: d :: rest =>
    if [a, b, c, d].all isHexDigit then
      match textBody rest with
      | .error fault => .error fault
      | .ok body =>
        .ok ⟨'\\' :: 'u' :: a :: b :: c :: d :: body.value, body.rest, by
          have := body.shorter; simp only [List.length_cons]; omega⟩
    else .error (.unexpected (rest.length + 4))
  | '\\' :: escaped :: rest =>
    if "\"\\/bfnrt".toList.contains escaped then
      match textBody rest with
      | .error fault => .error fault
      | .ok body =>
        .ok ⟨'\\' :: escaped :: body.value, body.rest, by
          have := body.shorter; simp only [List.length_cons]; omega⟩
    else .error (.unexpected (rest.length + 1))
  | char :: rest =>
    if char = '\\' || char.toNat < 0x20 then .error (.unexpected (rest.length + 1))
    else
      match textBody rest with
      | .error fault => .error fault
      | .ok body =>
        .ok ⟨char :: body.value, body.rest, by
          have := body.shorter; simp only [List.length_cons]; omega⟩

/-- The digits of a whole number: a zero alone, or digits that do not start with one. -/
def wholeDigits : (text : List Char) → Option (Split text)
  | '0' :: rest => if rest.head?.any Char.isDigit then none else some ((Split.none rest).push '0')
  | input =>
    let digits := Split.digits input
    if digits.front.isEmpty then none else some digits

/-- A number; after a point, and after the mark of an exponent, there are digits. -/
def number : Piece Source := fun text =>
  let minus : Split text :=
    match text with
    | '-' :: rest => (Split.none rest).push '-'
    | rest => Split.none rest
  match wholeDigits minus.rest with
  | none => .error (.unexpected text.length)
  | some whole =>
    let fraction := Split.fraction whole.rest
    let power := Split.exponent fraction.rest
    let split := minus.append (whole.append (fraction.append power))
    let dangling := fraction.front.isEmpty && whole.rest.head? == some '.' ||
      power.front.isEmpty && fraction.rest.head?.any fun char => char == 'e' || char == 'E'
    if dangling then .error (.unexpected fraction.rest.length)
    else if some_ : split.front ≠ [] then
      .ok ⟨.number split.front, split.rest, split.length_rest_lt some_⟩
    else .error (.unexpected text.length)

theorem length_skipBlanks_lt {text rest : List Char} (within : rest.length < text.length) :
    (skipBlanks rest).length < text.length :=
  Nat.lt_of_le_of_lt (length_skipBlanks_le rest) within

theorem length_lt_of_skipBlanks_eq_cons {α : Type} {text rest : List Char} {char : Char}
    {found : Found Char α text} (after : skipBlanks found.rest = char :: rest) :
    rest.length < text.length := by
  have := length_skipBlanks_lt found.shorter
  simp only [after, List.length_cons] at this
  omega

/-- One or more items with commas between them, up to a closing character.  No item and no
comma is preceded by a blank. -/
def items {α : Type} (closing : Char) (item : Piece α) : Piece (List α) := fun text =>
  match item text with
  | .error fault => .error fault
  | .ok first =>
    match after : skipBlanks first.rest with
    | [] => .error (.unexpected 0)
    | char :: rest =>
      have within : rest.length < text.length := length_lt_of_skipBlanks_eq_cons after
      if char = ',' then
        have smaller : (skipBlanks rest).length < text.length := length_skipBlanks_lt within
        match items closing item (skipBlanks rest) with
        | .error fault => .error fault
        | .ok more =>
          .ok ⟨first.value :: more.value, more.rest, Nat.lt_trans more.shorter smaller⟩
      else if char = closing then .ok ⟨[first.value], rest, within⟩
      else .error (.unexpected (rest.length + 1))
termination_by text => text.length

/-- Items after their opening character: none at all, or some with commas between them. -/
def block {α : Type} (closing : Char) (item : Piece α) : Piece (List α) := fun text =>
  match start : skipBlanks text with
  | [] => .error (.unexpected 0)
  | char :: rest =>
    have whole : (char :: rest).length ≤ text.length := start ▸ length_skipBlanks_le text
    if char = closing then .ok ⟨[], rest, by simp only [List.length_cons] at whole; omega⟩
    else
      match items closing item (char :: rest) with
      | .error fault => .error fault
      | .ok found => .ok ⟨found.value, found.rest, Nat.lt_of_lt_of_le found.shorter whole⟩

/-- A member of an object: its name, a colon and its value. -/
def member (value : Piece Source) : Piece (List Char × Source)
  | '"' :: body =>
    match textBody body with
    | .error fault => .error fault
    | .ok name =>
      let named := trim name
      match colon : named.rest with
      | ':' :: rest =>
        match value (skipBlanks rest) with
        | .error fault => .error fault
        | .ok found =>
          .ok ⟨(name.value, found.value), found.rest, by
            have := found.shorter
            have := length_skipBlanks_le rest
            have := named.shorter
            simp only [colon, List.length_cons] at this ⊢
            omega⟩
      | rest => .error (.unexpected rest.length)
  | rest => .error (.unexpected rest.length)

/-- A value in which containers enclose one another fewer than `depth` times. -/
def value : (depth : Nat) → Piece Source
  | 0, _ => .error .tooDeep
  | _ + 1, 'n' :: 'u' :: 'l' :: 'l' :: _ =>
    .ok (Found.head .null).behind.behind.behind
  | _ + 1, 't' :: 'r' :: 'u' :: 'e' :: _ =>
    .ok (Found.head (.bool true)).behind.behind.behind
  | _ + 1, 'f' :: 'a' :: 'l' :: 's' :: 'e' :: _ =>
    .ok (Found.head (.bool false)).behind.behind.behind.behind
  | _ + 1, '"' :: rest => (textBody rest).map (·.behind.map .text)
  | depth + 1, '[' :: rest => (block ']' (value depth) rest).map (·.behind.map .array)
  | depth + 1, '{' :: rest => (block '}' (member (value depth)) rest).map (·.behind.map .object)
  | _ + 1, rest => number rest

end Grammar

/-- The document that a text spells.  No container can enclose more others than the text
has characters. -/
def Source.read (document : String) : Except Fault Source :=
  let text := Grammar.skipBlanks document.toList
  match Grammar.value (text.length + 1) text with
  | .error fault => .error fault
  | .ok found =>
    match Grammar.skipBlanks found.rest with
    | [] => .ok found.value
    | rest => .error (.unexpected rest.length)

end Lamplight.Json
