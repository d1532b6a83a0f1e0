import Lamplight.Engine.Log

/-!
# How much is logged
-/

namespace Lamplight

/-- How much is written to the log. -/
inductive Verbosity
  | quiet
  | normal
  | verbose
  | debug
  deriving Repr, DecidableEq

namespace Verbosity

/-- The name of a verbosity. -/
def name : Verbosity → String
  | .quiet => "quiet"
  | .normal => "normal"
  | .verbose => "verbose"
  | .debug => "debug"

/-- Every verbosity, from little to much. -/
def all : List Verbosity := [.quiet, .normal, .verbose, .debug]

/-- The verbosity of a name, exactly as written. -/
def ofName? (name : String) : Option Verbosity := all.find? (·.name == name)

@[simp] theorem ofName?_name (verbosity : Verbosity) :
    ofName? verbosity.name = some verbosity := by
  cases verbosity <;> simp [ofName?, name, all, List.find?]

/-- The verbosity of a name in any case, of its first letter or of its number.  No letter
outside of ASCII has one of the letters in these names as its lower case. -/
def read? (text : String) : Option Verbosity :=
  let word := text.map Char.toLower
  if word = "quiet" ∨ word = "q" ∨ word = "0" then some .quiet
  else if word = "normal" ∨ word = "n" ∨ word = "1" then some .normal
  else if word = "verbose" ∨ word = "v" ∨ word = "2" then some .verbose
  else if word = "debug" ∨ word = "d" ∨ word = "3" then some .debug
  else none

/-- The place of a verbosity, counted from the one that logs least. -/
def rank : Verbosity → Nat
  | .quiet => 0
  | .normal => 1
  | .verbose => 2
  | .debug => 3

/-- The verbosity at a place; beyond the last one there is only the last one. -/
def ofRank : Nat → Verbosity
  | 0 => .quiet
  | 1 => .normal
  | 2 => .verbose
  | _ => .debug

/-- So many steps up and so many steps down, as far as there are any.  Steps in opposite
directions cancel out first. -/
def adjust (verbosity : Verbosity) (up down : Nat) : Verbosity :=
  ofRank (verbosity.rank + up - down)

/-- The least important records that are logged. -/
def threshold : Verbosity → LogRecord.Level
  | .quiet => .error
  | .normal => .warn
  | .verbose => .info
  | .debug => .debug

end Verbosity

end Lamplight
