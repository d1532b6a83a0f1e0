import Lamplight.Engine.Log
import Lamplight.Rule.Source

/-!
# The inference engine

An engine evaluates samples: it computes the degrees of a sample, fetches the rules, and
finds those whose conditions hold.  Every step is told to a sink, which has no say in the
result.  The effects of the source and of the sink are those of a monad `m`.
-/

namespace Lamplight

/-- Something that is told about events. -/
structure Sink (m : Type → Type) where
  record : Event → m Unit

namespace Sink

variable {m : Type → Type}

/-- The sink that takes no notice of anything. -/
def silent [Pure m] : Sink m := ⟨fun _ => pure ()⟩

/-- The sink that writes events to a log. -/
def logging [Monad m] (log : Logger m) : Sink m := ⟨fun event => (LogRecord.ofEvent event).forM log⟩

/-- The sink that records events in a journal, which is part of the state. -/
def journal [Monad m] [MonadStateOf Journal m] : Sink m :=
  ⟨fun event => modifyThe Journal (·.record event)⟩

end Sink

/-- Categories, a source of rules, and a sink that is told what happens. -/
structure Engine (m : Type → Type) where
  categories : Categories
  source : RuleSource m
  sink : Sink m

namespace Engine

variable {m : Type → Type} [Monad m]

/-- The rules among some whose conditions hold on a sample, in their order. -/
def activate (engine : Engine m) (sample : Sample) : List Rule → m (List Rule)
  | [] => return []
  | rule :: rest =>
    match rule.effect sample with
    | .idle => engine.activate sample rest
    | .malformed error => do
      engine.sink.record (.malformed rule error)
      engine.activate sample rest
    | .activated => do
      engine.sink.record (.activated rule)
      return rule :: (← engine.activate sample rest)

/-- Evaluate a sample. -/
def evaluate (engine : Engine m) (sample : Sample) : m (Except Failure Outcome) := do
  let degrees := engine.categories.fuzzify sample
  engine.sink.record (.fuzzified sample degrees)
  match ← engine.source.fetch with
  | .error failure => return .error failure
  | .ok rules =>
    let activated ← engine.activate sample rules
    return .ok ⟨sample, degrees, activated⟩

/-- The rules whose conditions hold on a sample. -/
def activated (engine : Engine m) (sample : Sample) : m (Except Failure (List Rule)) := do
  return (← engine.evaluate sample).map Outcome.activated

end Engine

end Lamplight
