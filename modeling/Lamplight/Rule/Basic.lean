import Lamplight.Condition.Parser
import Lamplight.Json.Basic

/-!
# Lighting rules

A rule couples the source of a condition with a lighting action.  Its condition is kept as
text: whether it can be parsed is found out when the rule is checked or applied.
-/

namespace Lamplight

/-- A lighting rule. -/
structure Rule where
  name : String
  description : String
  /-- The source of the condition. -/
  condition : String
  /-- A rule with a lower number goes first. -/
  priority : Int
  action : String
  /-- How strong the action is; rules only carry it. -/
  intensity : Option Json
  deriving Repr

/-- What a rule does on a sample. -/
inductive Rule.Effect
  /-- Its condition holds. -/
  | activated
  /-- Its condition does not hold. -/
  | idle
  /-- Its condition is none. -/
  | malformed (error : ConditionError)
  deriving Repr, DecidableEq

namespace Rule

/-- What a rule does on a sample. -/
def effect (rule : Rule) (sample : Sample) : Effect :=
  match Condition.parse rule.condition with
  | .error error => .malformed error
  | .ok condition => if condition.holds sample then .activated else .idle

/-- Whether the condition of a rule is one and holds on a sample. -/
def fires (rule : Rule) (sample : Sample) : Bool :=
  rule.effect sample == .activated

/-- What a look at a rule ahead of its use finds. -/
structure Check where
  name : String
  condition : String
  /-- Why the condition is none. -/
  error : Option ConditionError
  deriving Repr, DecidableEq

namespace Check

/-- The check of a rule. -/
def ofRule (rule : Rule) : Check where
  name := rule.name
  condition := rule.condition
  error :=
    match Condition.parse rule.condition with
    | .error error => some error
    | .ok _ => none

/-- Whether the condition of the rule is one. -/
def isValid (check : Check) : Bool := check.error.isNone

end Check

end Rule

end Lamplight
