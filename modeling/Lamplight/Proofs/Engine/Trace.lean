import Mathlib.Data.List.DropRight
import Mathlib.Data.List.Induction
import Lamplight.Engine.Basic

/-!
# What an engine tells its sink

Whatever the effects of the source and of the sink are, an evaluation records the degrees, fetches
the rules, records one event for every rule that has one, and returns a result that is computed from
the answer of the source alone (`Engine.evaluate_eq`).  All that is said about sinks below follows
from that equation: results are the same for all of them, and a journal that is shared by many calls
holds the events of these calls one after the other.
-/

namespace Lamplight

namespace Rule

variable {rule : Rule} {sample : Sample}

/-- A rule is activated when its condition can be parsed and holds. -/
theorem effect_eq_activated_iff : rule.effect sample = .activated ↔
    ∃ condition, Condition.parse rule.condition = .ok condition ∧
      condition.holds sample = true := by
  rw [effect]
  cases Condition.parse rule.condition with
  | error error => simp
  | ok condition => cases holds : condition.holds sample <;> simp [holds]

/-- A rule is idle when its condition can be parsed and does not hold. -/
theorem effect_eq_idle_iff : rule.effect sample = .idle ↔
    ∃ condition, Condition.parse rule.condition = .ok condition ∧
      condition.holds sample = false := by
  rw [effect]
  cases Condition.parse rule.condition with
  | error error => simp
  | ok condition => cases holds : condition.holds sample <;> simp [holds]

/-- A rule is malformed with the error of the parser. -/
theorem effect_eq_malformed_iff {error : ConditionError} :
    rule.effect sample = .malformed error ↔
      Condition.parse rule.condition = .error error := by
  rw [effect]
  cases Condition.parse rule.condition with
  | error found => simp
  | ok condition => cases holds : condition.holds sample <;> simp [holds]

theorem fires_iff_effect : rule.fires sample = true ↔ rule.effect sample = .activated := by
  rw [fires, beq_iff_eq]

/-- A rule fires when its condition can be parsed and holds. -/
theorem fires_iff : rule.fires sample = true ↔
    ∃ condition, Condition.parse rule.condition = .ok condition ∧
      condition.holds sample = true :=
  fires_iff_effect.trans effect_eq_activated_iff

end Rule

namespace Event

variable {rule : Rule} {sample : Sample}

/-- A rule is reported as activated when it fires. -/
theorem ofRule?_eq_activated_iff :
    ofRule? sample rule = some (.activated rule) ↔ rule.fires sample = true := by
  rw [ofRule?, Rule.fires_iff_effect]
  cases rule.effect sample <;> simp

/-- A rule is reported as malformed, with the error of the parser, when its condition is none. -/
theorem ofRule?_eq_malformed_iff {error : ConditionError} :
    ofRule? sample rule = some (.malformed rule error) ↔
      Condition.parse rule.condition = .error error := by
  rw [ofRule?, ← @Rule.effect_eq_malformed_iff rule sample]
  cases rule.effect sample <;> simp

/-- Nothing is reported for a rule whose condition is one and does not hold. -/
theorem ofRule?_eq_none_iff :
    ofRule? sample rule = none ↔
      ∃ condition, Condition.parse rule.condition = .ok condition ∧
        condition.holds sample = false := by
  rw [ofRule?, ← Rule.effect_eq_idle_iff]
  cases rule.effect sample <;> simp

/-- The events about fetched rules, in the order of the rules. -/
def ofRules (sample : Sample) (rules : List Rule) : List Event :=
  rules.filterMap (ofRule? sample)

/-- All events of an evaluation whose source gives some answer. -/
def trace (categories : Categories) (sample : Sample) (answer : Except Failure (List Rule)) :
    List Event :=
  .fuzzified sample (categories.fuzzify sample) ::
    match answer with
    | .error _ => []
    | .ok rules => ofRules sample rules

end Event

/-- The result of evaluating a sample on fetched rules. -/
def Outcome.ofRules (categories : Categories) (sample : Sample) (rules : List Rule) : Outcome where
  sample := sample
  degrees := categories.fuzzify sample
  activated := rules.filter fun rule => rule.fires sample

namespace Engine

section Lawful

variable {m : Type → Type} [Monad m] [LawfulMonad m]

/-- Going through the rules records their events and keeps the rules that fire. -/
theorem activate_eq (engine : Engine m) (sample : Sample) (rules : List Rule) :
    engine.activate sample rules = do
      forM (Event.ofRules sample rules) engine.sink.record
      return rules.filter fun rule => rule.fires sample := by
  induction rules with
  | nil => simp [activate, Event.ofRules]
  | cons rule rest ih =>
    simp only [activate, Event.ofRules, List.filterMap_cons, List.filter_cons, Event.ofRule?,
      Rule.fires] at ih ⊢
    cases rule.effect sample with
    | idle => simpa using ih
    | malformed error =>
      rw [ih]
      simp
    | activated =>
      rw [ih]
      simp

/-- An evaluation as a sequence of effects with a result that no sink has a say in. -/
theorem evaluate_eq (engine : Engine m) (sample : Sample) :
    engine.evaluate sample = do
      engine.sink.record (.fuzzified sample (engine.categories.fuzzify sample))
      match ← engine.source.fetch with
      | .error failure => return .error failure
      | .ok rules =>
        forM (Event.ofRules sample rules) engine.sink.record
        return .ok (.ofRules engine.categories sample rules) := by
  rw [evaluate]
  congr 1
  funext _
  congr 1
  funext answer
  cases answer with
  | error failure => rfl
  | ok rules =>
    simp only [activate_eq, bind_assoc, pure_bind]
    rfl

/-- Asking for the activated rules has the effects of an evaluation. -/
theorem activated_eq (engine : Engine m) (sample : Sample) :
    engine.activated sample = do
      engine.sink.record (.fuzzified sample (engine.categories.fuzzify sample))
      match ← engine.source.fetch with
      | .error failure => return .error failure
      | .ok rules =>
        forM (Event.ofRules sample rules) engine.sink.record
        return .ok (rules.filter fun rule => rule.fires sample) := by
  rw [activated, evaluate_eq]
  simp only [bind_assoc]
  congr 1
  funext _
  congr 1
  funext answer
  cases answer with
  | error failure => simp [Except.map]
  | ok rules => simp [Except.map, Outcome.ofRules]

end Lawful

/-- An engine whose source gives a fixed answer. -/
def answering {m : Type → Type} [Pure m] (categories : Categories)
    (answer : Except Failure (List Rule)) (sink : Sink m) : Engine m where
  categories := categories
  source := { fetch := pure answer }
  sink := sink

section Answering

variable {m : Type → Type} [Monad m] [LawfulMonad m]

/-- On a fixed answer, an evaluation records its trace and computes its result. -/
theorem evaluate_answering (categories : Categories) (answer : Except Failure (List Rule))
    (sink : Sink m) (sample : Sample) :
    (answering categories answer sink).evaluate sample = do
      forM (Event.trace categories sample answer) sink.record
      return answer.map (.ofRules categories sample) := by
  rw [evaluate_eq]
  cases answer with
  | error failure => simp [answering, Event.trace, Except.map]
  | ok rules => simp [answering, Event.trace, Except.map]

/-- On a fixed answer, asking for the activated rules records the same trace. -/
theorem activated_answering (categories : Categories) (answer : Except Failure (List Rule))
    (sink : Sink m) (sample : Sample) :
    (answering categories answer sink).activated sample = do
      forM (Event.trace categories sample answer) sink.record
      return answer.map fun rules => rules.filter fun rule => rule.fires sample := by
  rw [activated_eq]
  cases answer with
  | error failure => simp [answering, Event.trace, Except.map]
  | ok rules => simp [answering, Event.trace, Except.map]

end Answering

end Engine

/-! ## A journal that many calls share -/

/-- What can be done with engines that share a journal. -/
inductive Call
  | evaluate (categories : Categories) (answer : Except Failure (List Rule)) (sample : Sample)
  | activated (categories : Categories) (answer : Except Failure (List Rule)) (sample : Sample)
  | clear

namespace Call

/-- Do one thing, without a look at its result. -/
def perform : Call → StateM Journal Unit
  | .evaluate categories answer sample => do
    let _ ← (Engine.answering categories answer .journal).evaluate sample
  | .activated categories answer sample => do
    let _ ← (Engine.answering categories answer .journal).activated sample
  | .clear => set Journal.empty

/-- The events of a call. -/
def events : Call → List Event
  | .evaluate categories answer sample => Event.trace categories sample answer
  | .activated categories answer sample => Event.trace categories sample answer
  | .clear => []

/-- Whether the journal is emptied. -/
def isClear : Call → Bool
  | .clear => true
  | _ => false

/-- The calls after the last one that empties the journal. -/
def sinceClear (calls : List Call) : List Call :=
  calls.rtakeWhile fun call => !call.isClear

end Call

/-- Recorded events go to the end of the journal in their order. -/
theorem Journal.run_forM_record {m : Type → Type} [Monad m] [LawfulMonad m] (events : List Event)
    (journal : Journal) :
    (forM events (Sink.journal (m := StateT Journal m)).record).run journal =
      pure ((), ⟨journal.events ++ events⟩) := by
  induction events generalizing journal with
  | nil => simp
  | cons event rest ih =>
    have step : ((Sink.journal (m := StateT Journal m)).record event).run journal =
        pure ((), journal.record event) := rfl
    rw [List.forM_cons, StateT.run_bind, step, pure_bind]
    calc (forM rest (Sink.journal (m := StateT Journal m)).record).run (journal.record event)
        = pure ((), ⟨(journal.record event).events ++ rest⟩) := ih _
      _ = pure ((), ⟨journal.events ++ event :: rest⟩) := by
        rw [record, List.append_assoc, List.singleton_append]

namespace Call

/-- One call empties the journal or adds its events. -/
theorem run_perform (call : Call) (journal : Journal) :
    (call.perform.run journal).2 =
      if call.isClear then Journal.empty else ⟨journal.events ++ call.events⟩ := by
  cases call with
  | clear => rfl
  | evaluate categories answer sample =>
    rw [perform, Engine.evaluate_answering, bind_assoc, StateT.run_bind, Journal.run_forM_record]
    rfl
  | activated categories answer sample =>
    rw [perform, Engine.activated_answering, bind_assoc, StateT.run_bind, Journal.run_forM_record]
    rfl

theorem sinceClear_concat (calls : List Call) (call : Call) :
    sinceClear (calls ++ [call]) = if call.isClear then [] else sinceClear calls ++ [call] := by
  rw [sinceClear, List.rtakeWhile_concat]
  cases call.isClear with
  | true => rfl
  | false => rfl

/-- After any calls, the journal holds the events of those since it was emptied last. -/
theorem run_forM_perform (calls : List Call) :
    ((forM calls perform).run Journal.empty).2 = ⟨(sinceClear calls).flatMap events⟩ := by
  induction calls using List.reverseRecOn with
  | nil => rfl
  | append_singleton calls call ih =>
    have last : ((forM (calls ++ [call]) perform).run Journal.empty).2 =
        (call.perform.run ((forM calls perform).run Journal.empty).2).2 := by
      rw [List.forM_append, List.forM_cons, StateT.run_bind]
      rfl
    rw [last, ih, run_perform, sinceClear_concat]
    cases call.isClear with
    | true => rfl
    | false => simp

end Call

/-! ## The whole trace -/

/-- What an engine does on a sample, whatever the effects of its source and of its sink: it records
the degrees, fetches the rules, and on an answer with rules records the events of these rules and
returns those that fire.  Which event a rule has is decided by its condition, the results are the
same for every sink, and a journal holds the events of all calls since it was emptied last. -/
theorem Engine.evaluation_trace {m : Type → Type} [Monad m] [LawfulMonad m] (engine : Engine m)
    (sample : Sample) :
    (engine.evaluate sample = do
      engine.sink.record (.fuzzified sample (engine.categories.fuzzify sample))
      match ← engine.source.fetch with
      | .error failure => return .error failure
      | .ok rules =>
        forM (Event.ofRules sample rules) engine.sink.record
        return .ok ⟨sample, engine.categories.fuzzify sample,
          rules.filter fun rule => rule.fires sample⟩) ∧
    (engine.activated sample = do
      engine.sink.record (.fuzzified sample (engine.categories.fuzzify sample))
      match ← engine.source.fetch with
      | .error failure => return .error failure
      | .ok rules =>
        forM (Event.ofRules sample rules) engine.sink.record
        return .ok (rules.filter fun rule => rule.fires sample)) ∧
    (∀ rule : Rule,
      (rule.fires sample = true ↔ ∃ condition,
        Condition.parse rule.condition = .ok condition ∧ condition.holds sample = true) ∧
      (Event.ofRule? sample rule = some (.activated rule) ↔ rule.fires sample = true) ∧
      (∀ error, Event.ofRule? sample rule = some (.malformed rule error) ↔
        Condition.parse rule.condition = .error error) ∧
      (Event.ofRule? sample rule = none ↔ ∃ condition,
        Condition.parse rule.condition = .ok condition ∧ condition.holds sample = false)) ∧
    (∀ (σ : Type) (sink : Sink (StateM σ)) (categories : Categories)
        (answer : Except Failure (List Rule)) (state : σ),
      ((answering categories answer sink).evaluate sample).run state =
        (answer.map (.ofRules categories sample),
          ((forM (Event.trace categories sample answer) sink.record).run state).2) ∧
      ((answering categories answer sink).activated sample).run state =
        (answer.map (fun rules => rules.filter fun rule => rule.fires sample),
          ((forM (Event.trace categories sample answer) sink.record).run state).2)) ∧
    ∀ calls : List Call,
      ((forM calls Call.perform).run Journal.empty).2 =
        ⟨(Call.sinceClear calls).flatMap Call.events⟩ := by
  refine ⟨evaluate_eq engine sample, activated_eq engine sample, ?_, ?_, Call.run_forM_perform⟩
  · intro rule
    exact ⟨Rule.fires_iff, Event.ofRule?_eq_activated_iff,
      fun error => Event.ofRule?_eq_malformed_iff, Event.ofRule?_eq_none_iff⟩
  · intro σ sink categories answer state
    rw [evaluate_answering, activated_answering]
    exact ⟨rfl, rfl⟩

namespace Engine

/-- A rule for rain, with a condition that is one. -/
def rain : Rule := ⟨"rain", "", "weather = \"rain\"", 5, "dim", none⟩

/-- A rule whose condition ends too early. -/
def broken : Rule := ⟨"broken", "", "weather =", 1, "flash", none⟩

/-- A rule for fog. -/
def fog : Rule := ⟨"fog", "", "weather = \"fog\"", 3, "glow", none⟩

/-- The rule for rain fires both times, with the malformed one in between. -/
theorem evaluation_trace_rain_broken_fog_rain :
    LawfulMonad (StateM Journal) ∧
    (answering .standard (.ok [rain, broken, fog, rain])
        (.journal (m := StateM Journal))).activated ⟨6, 10, "rain"⟩ = (do
      let sink : Sink (StateM Journal) := .journal
      sink.record (.fuzzified ⟨6, 10, "rain"⟩ (Categories.standard.fuzzify ⟨6, 10, "rain"⟩))
      sink.record (.activated rain)
      sink.record (.malformed broken .truncated)
      sink.record (.activated rain)
      return .ok [rain, rain]) := by
  refine ⟨inferInstance, ?_⟩
  have rainy : rain.effect ⟨6, 10, "rain"⟩ = .activated := by decide +kernel
  have truncated : broken.effect ⟨6, 10, "rain"⟩ = .malformed .truncated := by decide +kernel
  have clear : fog.effect ⟨6, 10, "rain"⟩ = .idle := by decide +kernel
  have events : Event.ofRules ⟨6, 10, "rain"⟩ [rain, broken, fog, rain] =
      [.activated rain, .malformed broken .truncated, .activated rain] := by
    simp [Event.ofRules, Event.ofRule?, rainy, truncated, clear]
  have firing : ([rain, broken, fog, rain].filter fun rule => rule.fires ⟨6, 10, "rain"⟩) =
      [rain, rain] := by
    simp [Rule.fires, rainy, truncated, clear]
  rw [(evaluation_trace _ _).2.1]
  simp only [answering, pure_bind, events, firing]
  rfl

end Engine

end Lamplight
