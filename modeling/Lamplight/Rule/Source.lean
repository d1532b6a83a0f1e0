import Lamplight.Rule.Bundled
import Lamplight.Rule.Document

/-!
# Sources of rules

A source delivers rules whenever it is asked, with effects in a monad `m`.  A source in memory
always delivers the same ones; a source in a file reads the file anew every time.
-/

namespace Lamplight

/-- Something that rules are fetched from. -/
structure RuleSource (m : Type → Type) where
  /-- The rules at the moment, in the order in which they are applied. -/
  fetch : m (Except Failure (List Rule))
  /-- Where the rules come from, in words. -/
  description : String := "rule source"

namespace RuleSource

variable {m : Type → Type}

/-- A source of rules held in memory. -/
def inMemory [Pure m] (rules : List Rule) : RuleSource m where
  fetch := pure (.ok (Rule.byPriority rules))
  description := s!"in-memory ({rules.length} rules)"

/-- The source of the bundled rules. -/
def bundled [Pure m] : RuleSource m := inMemory Rule.bundled

/-- The rules in the content of a file.  A file that cannot be read is unavailable, whatever
the reason, and every failure names the path. -/
def ofContent (path : Path) (format : RuleFormat) :
    Except AccessError String → Except Failure (List Rule)
  | .error error =>
    .error (((Failure.ofAccessError error).withCode .unavailable).withField "path" path.text)
  | .ok content => (readRules content format).mapError (·.withField "path" path.text)

/-- A source of rules in a file of some format. -/
def inFile [Monad m] (files : Files m) (path : Path) (format : RuleFormat) : RuleSource m where
  fetch := return ofContent path format (← files.readText path)
  description := s!"file {path.text}"

/-- A source of rules in a file whose name tells the format. -/
def ofPath [Monad m] (files : Files m) (path : Path) : RuleSource m :=
  inFile files path (.ofPath path)

end RuleSource

end Lamplight
