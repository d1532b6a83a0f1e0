import Lamplight.Sample

/-!
# Conditions

A condition is a boolean expression over the readings of a sample: comparisons and ranges,
joined by `AND` and `OR`.  This module holds the tree, its value on a sample and the
readings it mentions.
-/

namespace Lamplight

/-- How two values are compared. -/
inductive Comparator
  | equal
  | less
  | lessEqual
  | greater
  | greaterEqual
  deriving Repr, DecidableEq

namespace Comparator

/-- The sign of a comparison; equality may also be written `==`. -/
def sign : Comparator → String
  | .equal => "="
  | .less => "<"
  | .lessEqual => "<="
  | .greater => ">"
  | .greaterEqual => ">="

/-- Whether a comparison holds between two numbers.  None does for no number. -/
def holds : Comparator → Float → Float → Bool
  | .equal, left, right => left == right
  | .less, left, right => left < right
  | .lessEqual, left, right => left ≤ right
  | .greater, left, right => right < left
  | .greaterEqual, left, right => right ≤ left

end Comparator

/-- What a reading is compared with. -/
inductive Literal
  | number (value : Float)
  | text (value : String)
  deriving Repr, BEq, DecidableEq

/-- A boolean expression over the readings of a sample. -/
inductive Condition
  /-- A reading compared with a literal. -/
  | comparison (reading : Reading) (comparator : Comparator) (literal : Literal)
  /-- A reading within two bounds, both included. -/
  | between (reading : Reading) (low high : Float)
  /-- Every part holds. -/
  | all (parts : List Condition)
  /-- Some part holds. -/
  | any (parts : List Condition)
  deriving Repr, BEq

namespace Sample

/-- Whether a comparison of a reading with a literal holds.  A number and a word are
never in a comparison that holds, and words are only compared for equality. -/
def compares (sample : Sample) : Reading → Comparator → Literal → Bool
  | .time, comparator, .number value => comparator.holds sample.time value
  | .light, comparator, .number value => comparator.holds sample.light value
  | .weather, comparator, .text value => comparator == .equal && sample.weather == value
  | _, _, _ => false

/-- Whether a reading lies between two bounds, both included.  A word never does. -/
def within (sample : Sample) : Reading → Float → Float → Bool
  | .time, low, high => low ≤ sample.time && sample.time ≤ high
  | .light, low, high => low ≤ sample.light && sample.light ≤ high
  | .weather, _, _ => false

end Sample

namespace Condition

mutual

/-- Whether a condition holds on a sample. -/
def holds (sample : Sample) : Condition → Bool
  | .comparison reading comparator literal => sample.compares reading comparator literal
  | .between reading low high => sample.within reading low high
  | .all parts => allHold sample parts
  | .any parts => anyHolds sample parts

/-- Whether every one of some conditions holds. -/
def allHold (sample : Sample) : List Condition → Bool
  | [] => true
  | part :: rest => holds sample part && allHold sample rest

/-- Whether one of some conditions holds. -/
def anyHolds (sample : Sample) : List Condition → Bool
  | [] => false
  | part :: rest => holds sample part || anyHolds sample rest

end

theorem allHold_eq (sample : Sample) (parts : List Condition) :
    allHold sample parts = parts.all (holds sample) := by
  induction parts with
  | nil => rfl
  | cons part rest ih => simp [allHold, ih]

theorem anyHolds_eq (sample : Sample) (parts : List Condition) :
    anyHolds sample parts = parts.any (holds sample) := by
  induction parts with
  | nil => rfl
  | cons part rest ih => simp [anyHolds, ih]

@[simp] theorem holds_all (sample : Sample) (parts : List Condition) :
    holds sample (.all parts) = parts.all (holds sample) := by
  rw [holds, allHold_eq]

@[simp] theorem holds_any (sample : Sample) (parts : List Condition) :
    holds sample (.any parts) = parts.any (holds sample) := by
  rw [holds, anyHolds_eq]

mutual

/-- The readings at the leaves of a condition, from left to right. -/
def mentions : Condition → List Reading
  | .comparison reading _ _ => [reading]
  | .between reading _ _ => [reading]
  | .all parts => mentionsOf parts
  | .any parts => mentionsOf parts

/-- The readings at the leaves of some conditions, from left to right. -/
def mentionsOf : List Condition → List Reading
  | [] => []
  | part :: rest => mentions part ++ mentionsOf rest

end

/-- The readings on which a condition depends, in the order of their first mention. -/
def readings (condition : Condition) : List Reading :=
  condition.mentions.eraseDups

theorem mentionsOf_eq (parts : List Condition) :
    mentionsOf parts = parts.flatMap mentions := by
  induction parts with
  | nil => rfl
  | cons part rest ih => simp [mentionsOf, ih]

end Condition

end Lamplight
