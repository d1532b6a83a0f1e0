import Lamplight.Text.Printable

/-!
# Texts with escapes

A form of texts in which every character can be seen: between double quotes, with escapes for
characters without a visible form of their own.
-/

namespace Lamplight.Text

/-- A character by its code point. -/
def codeEscape (char : Char) : List Char :=
  "\\u\x7b".toList ++ Nat.toDigits 16 char.toNat ++ ['\x7d']

/-- A character between double quotes. -/
def escapeVisible (char : Char) : List Char :=
  if char = '\x00' then ['\\', '0']
  else if char = '\t' then ['\\', 't']
  else if char = '\n' then ['\\', 'n']
  else if char = '\r' then ['\\', 'r']
  else if char = '"' then ['\\', '"']
  else if char = '\\' then ['\\', '\\']
  else if isExtending char || !isPrintable char then codeEscape char
  else [char]

/-- A text between double quotes. -/
def visible (text : String) : String :=
  "\"" ++ String.ofList (text.toList.flatMap escapeVisible) ++ "\""

end Lamplight.Text
