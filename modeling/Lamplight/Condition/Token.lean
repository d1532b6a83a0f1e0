import Lamplight.Condition.Basic
import Lamplight.Decimal.Layout

/-!
# Tokens of a condition

The words of the condition language.  Its keywords are `AND`, `OR` and `BETWEEN`, in
capitals; any other word is an identifier.
-/

namespace Lamplight

/-- A word of the condition language. -/
inductive Token
  | identifier (name : String)
  | number (value : Float)
  | text (value : String)
  | comparator (relation : Comparator)
  | and
  | or
  | between
  | opening
  | closing
  deriving Repr, BEq, DecidableEq

namespace Token

/-- The token of a word: a keyword, or an identifier. -/
def ofWord (word : String) : Token :=
  if word = "AND" then .and
  else if word = "OR" then .or
  else if word = "BETWEEN" then .between
  else .identifier word

/-- A token in the words of an error message. -/
def describe : Token → String
  | .identifier name => s!"identifier '{name}'"
  | .number value => s!"number {Decimal.plain.text value}"
  | .text value => s!"string \"{value}\""
  | .comparator relation => s!"operator '{relation.sign}'"
  | .and => "keyword AND"
  | .or => "keyword OR"
  | .between => "keyword BETWEEN"
  | .opening => "'('"
  | .closing => "')'"

/-- A token and the byte offset of its first character in the source. -/
structure Located where
  offset : Nat
  token : Token
  deriving Repr, BEq, DecidableEq

end Token

end Lamplight
