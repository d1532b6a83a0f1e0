import Lamplight.Decimal.Layout
import Lamplight.Json.Basic

/-!
# JSON documents as text

The indented form of a JSON value: two blanks for each level, one member or item on a line.
-/

namespace Lamplight.Json

/-- Numbers in JSON: a whole number ends in `.0`, and very large and very small ones have an
exponent with a sign. -/
def numberStyle : Decimal.NumberStyle where
  tie := .even
  markWhole := true
  positional := fun power => -5 ≤ power && power ≤ 15
  exponent := Decimal.signedExponent
  notANumber := "null"
  infinity := "null"

/-- The text of a number; JSON has none for infinity and for no number. -/
def numberText (number : Float) : String :=
  if number.isFinite then numberStyle.text number else "null"

/-- The lowercase hexadecimal digit of a value below sixteen. -/
def hexDigit (value : Nat) : Char :=
  if value < 10 then Char.ofNat ('0'.toNat + value) else Char.ofNat ('a'.toNat + (value - 10))

/-- A character between double quotes. -/
def escape (char : Char) : List Char :=
  if char = '"' then ['\\', '"']
  else if char = '\\' then ['\\', '\\']
  else if char = '\x08' then ['\\', 'b']
  else if char = '\x0c' then ['\\', 'f']
  else if char = '\n' then ['\\', 'n']
  else if char = '\r' then ['\\', 'r']
  else if char = '\t' then ['\\', 't']
  else if char.toNat < 0x20 then
    ['\\', 'u', '0', '0', hexDigit (char.toNat / 16), hexDigit (char.toNat % 16)]
  else [char]

/-- A text between double quotes. -/
def quoted (text : String) : String :=
  "\"" ++ String.ofList (text.toList.flatMap escape) ++ "\""

/-- A new line at a level of indentation. -/
def newline (level : Nat) : String :=
  "\n" ++ String.ofList (List.replicate (2 * level) ' ')

mutual

/-- A value whose first line is already indented to a level. -/
def textAt (level : Nat) : Json → String
  | .null => "null"
  | .bool true => "true"
  | .bool false => "false"
  | .integer value => toString value
  | .number value => numberText value
  | .text value => quoted value
  | .array [] => "[]"
  | .array (item :: rest) =>
    "[" ++ newline (level + 1) ++ textAt (level + 1) item ++ itemsAt (level + 1) rest ++
      newline level ++ "]"
  | .object [] => "\x7b\x7d"
  | .object (member :: rest) =>
    "\x7b" ++ newline (level + 1) ++ memberAt (level + 1) member ++ membersAt (level + 1) rest ++
      newline level ++ "\x7d"

/-- The items after the first one. -/
def itemsAt (level : Nat) : List Json → String
  | [] => ""
  | item :: rest => "," ++ newline level ++ textAt level item ++ itemsAt level rest

/-- A member. -/
def memberAt (level : Nat) : String × Json → String
  | (name, value) => quoted name ++ ": " ++ textAt level value

/-- The members after the first one. -/
def membersAt (level : Nat) : List (String × Json) → String
  | [] => ""
  | member :: rest => "," ++ newline level ++ memberAt level member ++ membersAt level rest

end

/-- The indented text of a value. -/
def pretty (value : Json) : String := textAt 0 value

end Lamplight.Json
