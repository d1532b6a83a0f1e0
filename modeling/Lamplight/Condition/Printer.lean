import Lamplight.Condition.Basic
import Lamplight.Decimal.Layout

/-!
# Conditions as text

The source form of a condition.  Parentheses stand only where the grammar needs them: around
alternatives inside a conjunction.
-/

namespace Lamplight

/-- A character between double quotes: a quote, a backslash, a line break and a tab are
written with a backslash. -/
def Literal.escape : Char → List Char
  | '\\' => ['\\', '\\']
  | '"' => ['\\', '"']
  | '\n' => ['\\', 'n']
  | '\t' => ['\\', 't']
  | char => [char]

/-- The source form of a literal. -/
def Literal.chars : Literal → List Char
  | .number value => Decimal.plain.chars value
  | .text value => '"' :: (value.toList.flatMap Literal.escape ++ ['"'])

namespace Condition

/-- Whether a condition is a choice between alternatives. -/
def isChoice : Condition → Bool
  | .any _ => true
  | _ => false

/-- A text in parentheses where they are needed. -/
def enclose (needed : Bool) (text : List Char) : List Char :=
  if needed then '(' :: (text ++ [')']) else text

mutual

/-- The source form of a condition, as characters. -/
def chars : Condition → List Char
  | .comparison reading comparator literal =>
    reading.name.toList ++ ' ' :: comparator.sign.toList ++ ' ' :: literal.chars
  | .between reading low high =>
    reading.name.toList ++ " BETWEEN ".toList ++ Decimal.plain.chars low ++
      " AND ".toList ++ Decimal.plain.chars high
  | .all parts => conjoined parts
  | .any parts => alternatives parts

/-- Parts joined by `AND`, alternatives among them in parentheses. -/
def conjoined : List Condition → List Char
  | [] => []
  | [part] => enclose part.isChoice (chars part)
  | part :: rest => enclose part.isChoice (chars part) ++ " AND ".toList ++ conjoined rest

/-- Parts joined by `OR`. -/
def alternatives : List Condition → List Char
  | [] => []
  | [part] => chars part
  | part :: rest => chars part ++ " OR ".toList ++ alternatives rest

end

/-- The source form of a condition. -/
def text (condition : Condition) : String :=
  String.ofList condition.chars

end Condition

end Lamplight
