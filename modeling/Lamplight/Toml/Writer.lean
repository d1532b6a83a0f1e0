import Lamplight.Decimal.Layout
import Lamplight.Toml.Basic

/-!
# TOML documents as text

Sections with headers, separated by empty lines; the longer arrays have one item on a line.  A
text stands between double quotes unless other quotes spare it escapes.
-/

namespace Lamplight.Toml

/-- Numbers in TOML: never an exponent, and a whole number ends in `.0`. -/
def numberStyle : Decimal.NumberStyle where
  tie := .away
  markWhole := true
  positional := fun _ => true
  notANumber := "nan"
  infinity := "inf"

/-- Whether a character can only be written as an escape, or is a line break; the tab is
neither. -/
def isControl (char : Char) : Bool :=
  (char.toNat < 0x20 && char != '\t') || char == '\x7f'

/-- The greatest number of times that a character stands in a row. -/
def longestRun (char : Char) (text : List Char) : Nat :=
  (text.splitBy fun left right => left == right).foldl
    (fun longest run => if run.head? == some char then max longest run.length else longest) 0

/-- How a text is quoted. -/
inductive Quotation
  | basic
  | literal
  /-- With three double quotes on either side. -/
  | basicTriple
  /-- With three single quotes on either side. -/
  | literalTriple
  deriving Repr, DecidableEq

/-- Whether a text needs escapes, line breaks apart. -/
def needsEscapes (text : List Char) : Bool :=
  text.any fun char => isControl char && char != '\n'

/-- How a text is quoted best: in the first way that takes no escape, line breaks only in
triple quotes; otherwise with escapes. -/
def Quotation.ofText (text : List Char) : Quotation :=
  let severalLines := text.contains '\n'
  let plain := !needsEscapes text
  let withoutBackslash := plain && !text.contains '\\'
  if withoutBackslash && !severalLines && !text.contains '"' then .basic
  else if plain && !severalLines && !text.contains '\'' then .literal
  else if withoutBackslash && longestRun '"' text < 3 then .basicTriple
  else if plain && longestRun '\'' text < 3 then .literalTriple
  else if severalLines then .basicTriple
  else .basic

/-- The uppercase hexadecimal digit of a value below sixteen. -/
def hexDigit (value : Nat) : Char :=
  if value < 10 then Char.ofNat ('0'.toNat + value) else Char.ofNat ('A'.toNat + (value - 10))

/-- A character between double quotes. -/
def escape (char : Char) : List Char :=
  if char = '\n' then ['\\', 'n']
  else if char = '\x08' then ['\\', 'b']
  else if char = '\t' then ['\\', 't']
  else if char = '\x0c' then ['\\', 'f']
  else if char = '\r' then ['\\', 'r']
  else if char = '"' then ['\\', '"']
  else if char = '\\' then ['\\', '\\']
  else if isControl char then
    ['\\', 'u', '0', '0', hexDigit (char.toNat / 16), hexDigit (char.toNat % 16)]
  else [char]

/-- A text between triple double quotes, after so many double quotes.  Every third one in a
row is escaped, and line breaks stay. -/
def escapeTriple : (quotes : Nat) → List Char → List Char
  | _, [] => []
  | _, '\n' :: rest => '\n' :: escapeTriple 0 rest
  | quotes, '"' :: rest =>
    if quotes < 2 then '"' :: escapeTriple (quotes + 1) rest
    else '\\' :: '"' :: escapeTriple 0 rest
  | _, char :: rest => escape char ++ escapeTriple 0 rest

/-- The line break behind opening triple quotes; a reader leaves it out. -/
def leadingBreak (text : List Char) : List Char :=
  if text.contains '\n' then ['\n'] else []

/-- A text in some quotation. -/
def Quotation.quote (quotation : Quotation) (text : List Char) : List Char :=
  match quotation with
  | .basic => '"' :: (text.flatMap escape ++ ['"'])
  | .literal => '\'' :: (text ++ ['\''])
  | .basicTriple =>
    "\"\"\"".toList ++ leadingBreak text ++ escapeTriple 0 text ++ "\"\"\"".toList
  | .literalTriple => "'''".toList ++ leadingBreak text ++ text ++ "'''".toList

/-- A text between quotes. -/
def quoted (text : List Char) : List Char := (Quotation.ofText text).quote text

/-- Whether a character may stand in a key without quotes. -/
def isBareChar (char : Char) : Bool := char.isAlphanum || char == '_' || char == '-'

/-- How a key is quoted that needs quotes: always on one line, and without escapes where
that is possible. -/
def Quotation.ofKey (text : List Char) : Quotation :=
  if text.any isControl then .basic
  else if !text.contains '\\' && !text.contains '"' then .basic
  else if !text.contains '\'' then .literal
  else .basic

/-- A key, with quotes where they are needed. -/
def keyText (key : String) : List Char :=
  let text := key.toList
  if !text.isEmpty && text.all isBareChar then text
  else (Quotation.ofKey text).quote text

namespace Value

mutual

/-- The text of a value. -/
def chars : Value → List Char
  | .text value => quoted value.toList
  | .integer value => (toString value).toList
  | .number value => numberStyle.chars value
  | .bool value => (toString value).toList
  | .moment value => value.text.toList
  | .array [] => "[]".toList
  | .array [item] => '[' :: (chars item ++ [']'])
  | .array items => '[' :: (lines items ++ "\n]".toList)
  | .table [] => "\x7b\x7d".toList
  | .table (entry :: rest) =>
    "\x7b ".toList ++ entryChars entry ++ entriesChars rest ++ " \x7d".toList

/-- Items on lines of their own, each with a comma behind it. -/
def lines : List Value → List Char
  | [] => []
  | item :: rest => "\n    ".toList ++ chars item ++ ',' :: lines rest

/-- A key and its value. -/
def entryChars : String × Value → List Char
  | (key, value) => keyText key ++ " = ".toList ++ chars value

/-- The entries of an inline table after the first one. -/
def entriesChars : List (String × Value) → List Char
  | [] => []
  | entry :: rest => ", ".toList ++ entryChars entry ++ entriesChars rest

end

end Value

/-- A part of a document: the keys of its header, and its entries. -/
structure Part where
  path : List String
  entries : List (String × Value)

/-- The text of a part: its header, then its entries on a line each. -/
def Part.chars (part : Part) : List Char :=
  '[' :: (['.'].intercalate (part.path.map keyText) ++ "]\n".toList) ++
    part.entries.flatMap fun entry => Value.entryChars entry ++ ['\n']

/-- The text of a document. -/
def documentText (parts : List Part) : String :=
  String.ofList (['\n'].intercalate (parts.map Part.chars))

end Lamplight.Toml
