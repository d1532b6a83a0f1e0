import Lamplight.Engine.Event

/-!
# Log records

Log records tell people what an engine does.  Every record has a level, and a threshold
decides which levels are shown.
-/

namespace Lamplight

/-- How important a log record is; from the most important level down. -/
inductive LogRecord.Level
  | error
  | warn
  | info
  | debug
  deriving Repr, DecidableEq

namespace LogRecord.Level

/-- The name of a level. -/
def name : Level → String
  | .error => "ERROR"
  | .warn => "WARN"
  | .info => "INFO"
  | .debug => "DEBUG"

/-- The place of a level, counted from the most important one. -/
def rank : Level → Nat
  | .error => 0
  | .warn => 1
  | .info => 2
  | .debug => 3

/-- Whether records of a level are shown under a threshold. -/
def passes (level threshold : Level) : Bool := level.rank ≤ threshold.rank

end LogRecord.Level

/-- One entry of a log. -/
structure LogRecord where
  level : LogRecord.Level
  message : String
  /-- What the entry is about, as names with texts. -/
  fields : List (String × String)
  deriving Repr, DecidableEq

namespace LogRecord

/-- The records of an event. -/
def ofEvent : Event → List LogRecord
  | .fuzzified sample degrees => [
      ⟨.info, "sensor sample", [
        ("time", Decimal.plain.text sample.time),
        ("light", Decimal.plain.text sample.light),
        ("weather", sample.weather)]⟩,
      ⟨.debug, "fuzzified", [
        ("light", degrees.light.text),
        ("time", degrees.time.text),
        ("weather", degrees.weather.text),
        ("dominant_light", degrees.light.dominantName),
        ("dominant_time", degrees.time.dominantName),
        ("dominant_weather", degrees.weather.dominantName)]⟩]
  | .activated rule => [
      ⟨.info, "rule activated", [
        ("rule", rule.name),
        ("priority", toString rule.priority),
        ("action", rule.action)]⟩]
  | .malformed rule error => [
      ⟨.warn, "malformed condition, rule skipped", [
        ("rule", rule.name),
        ("condition", rule.condition),
        ("error", error.message)]⟩]

/-- A record in one line. -/
def text (record : LogRecord) : String :=
  record.level.name ++ " " ++ record.message ++
    String.join (record.fields.map fun (name, value) => " " ++ name ++ "=" ++ value)

end LogRecord

/-- Something that takes log records. -/
abbrev Logger (m : Type → Type) := LogRecord → m Unit

/-- The logger that takes no notice of anything. -/
def Logger.silent {m : Type → Type} [Pure m] : Logger m := fun _ => pure ()

end Lamplight
