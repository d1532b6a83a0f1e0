import Lamplight.Condition.Lexeme
import Lamplight.Scan

/-!
# From tokens to conditions

The grammar of conditions:

```text
condition   := conjunction ("OR" conjunction)*
conjunction := primary ("AND" primary)*
primary     := "(" condition ")" | comparison
comparison  := reading "BETWEEN" number "AND" number | reading comparator literal
```

A range takes the `AND` between its bounds for itself.  Groups may stand in one another
up to `maxDepth`; the parser recurses on the depth that is left, and within one depth on
the tokens that are left.
-/

namespace Lamplight

/-- How many groups may enclose one token. -/
def maxDepth : Nat := 32

/-- A parser of the condition language. -/
abbrev TokenParser (α : Type) := Scanner Token.Located ConditionError α

namespace Condition

/-- The first token, whatever it is. -/
def anyToken : TokenParser Token.Located
  | [] => .error .truncated
  | token :: _ => .ok (.head token)

/-- The error of finding a token where something else is wanted. -/
def unexpected (wanted : Expectation) (found : Token.Located) : ConditionError :=
  .malformed found.offset (.unexpected wanted found.token)

/-- The reading at the start of a comparison. -/
def readingOf (found : Token.Located) : Except ConditionError Reading :=
  match found.token with
  | .identifier name =>
    match Reading.ofName? name with
    | some reading => .ok reading
    | none => .error (.unbound name)
  | _ => .error (unexpected .reading found)

/-- The right side of a comparison. -/
def literalOf (found : Token.Located) : Except ConditionError Literal :=
  match found.token with
  | .number value => .ok (.number value)
  | .text value => .ok (.text value)
  | .identifier name => .error (.mismatch (.identifierOperand name))
  | _ => .error (unexpected .literal found)

/-- A bound of a range. -/
def boundOf (reading : Reading) (found : Token.Located) : Except ConditionError Float :=
  match found.token with
  | .number value => .ok value
  | .text _ => .error (.mismatch (.textBound reading))
  | _ => .error (unexpected .bound found)

/-- A comparison whose sides go together: numbers with numbers, and the weather with a
text by equality. -/
def compared (reading : Reading) (comparator : Comparator) (literal : Literal) :
    Except ConditionError Condition :=
  match reading.isNumeric, literal with
  | true, .number _ => .ok (.comparison reading comparator literal)
  | true, .text _ => .error (.mismatch (.textOperand reading))
  | false, .number _ => .error (.mismatch (.numberOperand reading))
  | false, .text _ =>
    if comparator = .equal then .ok (.comparison reading comparator literal)
    else .error (.unsupported reading (.compare comparator))

/-- A range of a numeric reading. -/
def ranged (reading : Reading) (low high : Float) : Except ConditionError Condition :=
  if reading.isNumeric then .ok (.between reading low high)
  else .error (.unsupported reading .range)

/-- The bounds of a range, after its keyword. -/
def range (reading : Reading) : TokenParser Condition := fun input => do
  let first ← anyToken input
  let low ← boundOf reading first.value
  let separator ← anyToken first.rest
  if separator.value.token ≠ .and then
    throw (unexpected .rangeAnd separator.value)
  let second ← anyToken separator.rest
  let high ← boundOf reading second.value
  let condition ← ranged reading low high
  return (first.after (separator.after second)).map fun _ => condition

/-- A comparison or a range. -/
def comparisonAt : TokenParser Condition := fun input => do
  let left ← anyToken input
  let reading ← readingOf left.value
  let operation ← anyToken left.rest
  match operation.value.token with
  | .between =>
    let bounds ← range reading operation.rest
    return left.after (operation.after bounds)
  | .comparator relation =>
    let right ← anyToken operation.rest
    let literal ← literalOf right.value
    let condition ← compared reading relation literal
    return (left.after (operation.after right)).map fun _ => condition
  | _ => throw (unexpected (.comparator reading) operation.value)

/-- A group or a comparison.  `inner` reads the inside of a group; without it no further
group may be opened. -/
def primary (inner : Option (TokenParser Condition)) : TokenParser Condition
  | ⟨offset, .opening⟩ :: rest =>
    match inner with
    | none => .error (.malformed offset (.tooDeep maxDepth))
    | some inner => do
      let group ← inner rest
      let close ← anyToken group.rest
      if close.value.token ≠ .closing then
        throw (unexpected .closing close.value)
      return ((group.after close).map fun _ => group.value).behind
  | input => comparisonAt input

/-- One term stands for itself, and several are joined. -/
def joined (join : List Condition → Condition) : List Condition → Condition
  | [term] => term
  | terms => join terms

/-- Terms joined by `AND`. -/
def conjunction (inner : Option (TokenParser Condition)) : TokenParser Condition :=
  fun input =>
    (chain (fun symbol => symbol.token = .and) (primary inner) input).map
      (·.map (joined .all))

/-- Terms joined by `OR`. -/
def disjunction (inner : Option (TokenParser Condition)) : TokenParser Condition :=
  fun input =>
    (chain (fun symbol => symbol.token = .or) (conjunction inner) input).map
      (·.map (joined .any))

/-- A condition in which groups enclose one another at most `depth` times. -/
def withinDepth : (depth : Nat) → TokenParser Condition
  | 0 => disjunction none
  | depth + 1 => disjunction (some (withinDepth depth))

/-- The condition that a list of tokens spells. -/
def ofTokens (tokens : List Token.Located) : Except ConditionError Condition := do
  let condition ← withinDepth maxDepth tokens
  match condition.rest with
  | [] => return condition.value
  | extra :: _ => throw (.malformed extra.offset (.trailing extra.token))

/-- The condition that a source spells. -/
def parse (source : String) : Except ConditionError Condition := do
  ofTokens (← tokenize source)

end Condition

end Lamplight
