import Lamplight.Condition.Token

/-!
# Errors in conditions

What can be wrong with the source of a condition, and how it is reported.
-/

namespace Lamplight

/-- What the grammar wants at the place of some token. -/
inductive Expectation
  /-- The end of a group. -/
  | closing
  /-- The word between the bounds of a range. -/
  | rangeAnd
  /-- The comparison after a reading. -/
  | comparator (left : Reading)
  /-- The reading at the start of a comparison. -/
  | reading
  /-- The right side of a comparison. -/
  | literal
  /-- A bound of a range. -/
  | bound
  deriving Repr, DecidableEq

/-- The wanted piece in words. -/
def Expectation.describe : Expectation → String
  | .closing => "expected ')'"
  | .rangeAnd => "expected AND in BETWEEN range"
  | .comparator left =>
    s!"expected comparator (=, ==, <, <=, >, >=, BETWEEN) after {left.name}"
  | .reading => "expected time, light or weather"
  | .literal => "expected number or string"
  | .bound => "expected number in BETWEEN range"

/-- A fault in the text of a condition at one place. -/
inductive Problem
  /-- A quote that opens a text without end. -/
  | unterminatedText
  /-- Something that starts like a number and is none. -/
  | malformedNumber (near : String)
  /-- A character that starts no token. -/
  | unexpectedCharacter (char : Char)
  /-- A token after the end of the condition. -/
  | trailing (token : Token)
  /-- A group inside too many others. -/
  | tooDeep (limit : Nat)
  /-- A token where the grammar wants something else. -/
  | unexpected (wanted : Expectation) (token : Token)
  deriving Repr, DecidableEq

/-- A fault in words. -/
def Problem.message : Problem → String
  | .unterminatedText => "unterminated string literal"
  | .malformedNumber near => s!"malformed number near '{near}'"
  | .unexpectedCharacter char => s!"unexpected character '{char}'"
  | .trailing token => s!"unexpected {token.describe} after complete condition"
  | .tooDeep limit => s!"parentheses nested deeper than {limit}"
  | .unexpected wanted token => s!"{wanted.describe} but found {token.describe}"

/-- Two sides of a comparison that do not go together. -/
inductive Mismatch
  /-- A word compared by name instead of by value. -/
  | identifierOperand (name : String)
  /-- A text where a numeric reading has its bound. -/
  | textBound (reading : Reading)
  /-- A text compared with a numeric reading. -/
  | textOperand (reading : Reading)
  /-- A number compared with the weather. -/
  | numberOperand (reading : Reading)
  deriving Repr, DecidableEq

/-- The left side of a mismatch. -/
def Mismatch.subject : Mismatch → String
  | .identifierOperand _ => "comparison"
  | .textBound reading | .textOperand reading | .numberOperand reading => reading.name

/-- The right side of a mismatch. -/
def Mismatch.found : Mismatch → String
  | .identifierOperand name =>
    s!"identifier '{name}' (only literals are allowed on the right)"
  | .textBound _ => "a string range bound"
  | .textOperand _ => "a string"
  | .numberOperand _ => "a number"

/-- What a reading is subjected to. -/
inductive Operation
  | compare (comparator : Comparator)
  | range
  deriving Repr, DecidableEq

/-- The sign or keyword of an operation. -/
def Operation.sign : Operation → String
  | .compare comparator => comparator.sign
  | .range => "BETWEEN"

/-- Why a source is not a condition. -/
inductive ConditionError
  /-- A fault at a byte offset of the source. -/
  | malformed (position : Nat) (problem : Problem)
  /-- A name that is no reading. -/
  | unbound (name : String)
  /-- An operation that the reading does not have. -/
  | unsupported (reading : Reading) (operation : Operation)
  /-- A comparison whose sides do not go together. -/
  | mismatch (sides : Mismatch)
  /-- The source ends inside a condition. -/
  | truncated
  deriving Repr, DecidableEq

/-- An error in words. -/
def ConditionError.message : ConditionError → String
  | .malformed position problem => s!"Syntax error at position {position}: {problem.message}"
  | .unbound name => s!"Unbound identifier '{name}' (expected time, light or weather)"
  | .unsupported reading operation =>
    s!"Operator '{operation.sign}' is not supported for {reading.name}"
  | .mismatch sides =>
    s!"Type mismatch: {sides.subject} cannot be compared with {sides.found}"
  | .truncated => "Unexpected end of condition"

end Lamplight
