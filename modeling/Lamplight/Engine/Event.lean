import Lamplight.Membership.Categories
import Lamplight.Rule.Order

/-!
# Events of an evaluation

What an engine tells others while it evaluates a sample, and the result of an evaluation.
-/

namespace Lamplight

/-- Something that happens while a sample is evaluated. -/
inductive Event
  /-- The degrees of the sample are known. -/
  | fuzzified (sample : Sample) (degrees : Snapshot)
  /-- The condition of a rule holds. -/
  | activated (rule : Rule)
  /-- The condition of a rule is none. -/
  | malformed (rule : Rule) (error : ConditionError)

namespace Event

/-- Whether an event is about a rule whose condition is none. -/
def isMalformed : Event → Bool
  | .malformed _ _ => true
  | _ => false

/-- The event of a rule on a sample, if there is one. -/
def ofRule? (sample : Sample) (rule : Rule) : Option Event :=
  match rule.effect sample with
  | .activated => some (.activated rule)
  | .idle => none
  | .malformed error => some (.malformed rule error)

end Event

/-- The events that were recorded, the oldest first. -/
structure Journal where
  events : List Event

namespace Journal

/-- The journal without events. -/
def empty : Journal := ⟨[]⟩

/-- The journal with one more event. -/
def record (journal : Journal) (event : Event) : Journal := ⟨journal.events ++ [event]⟩

/-- The recorded events about conditions that are none. -/
def malformed (journal : Journal) : List Event := journal.events.filter Event.isMalformed

end Journal

/-- The result of evaluating a sample. -/
structure Outcome where
  sample : Sample
  degrees : Snapshot
  /-- The rules whose conditions hold, in the order in which they were fetched. -/
  activated : List Rule

/-- The rule that decides, if any rule is activated. -/
def Outcome.selected (outcome : Outcome) : Option Rule := Rule.select outcome.activated

end Lamplight
