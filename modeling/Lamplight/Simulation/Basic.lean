import Lamplight.Engine.Basic
import Lamplight.Simulation.Environment

/-!
# The simulator

The simulator lets an engine decide hour by hour in a simulated environment.  `tick` is one
hour; `runWith` is many, each of which a visitor is told about.
-/

namespace Lamplight

/-- What came of one hour. -/
structure Report where
  observation : Observation
  /-- The rules whose conditions hold. -/
  activated : List Rule
  /-- The rule that decides. -/
  selected : Option Rule

namespace Report

/-- What is done when no rule decides. -/
def keepState : String := "keep current state"

/-- The action of an hour. -/
def action (report : Report) : String :=
  match report.selected with
  | some rule => rule.action
  | none => keepState

/-- An hour of day, with two digits, as a time. -/
def clockText (hour : Nat) : String :=
  (if hour < 10 then "0" else "") ++ toString hour ++ ":00"

/-- A report in one line. -/
def text (report : Report) : String :=
  s!"{clockText report.observation.hour.val} | weather: {report.observation.weather}" ++
    s!" | light: {Decimal.fixed 2 report.observation.light} | action: {report.action}" ++
    match report.selected with
    | some rule => s!" (rule: {rule.name})"
    | none => ""

/-- The log record of an hour. -/
def logRecord (report : Report) : LogRecord :=
  ⟨.info, "tick", [
    ("hour", toString report.observation.hour.val),
    ("weather", report.observation.weather),
    ("light", Decimal.plain.text report.observation.light),
    ("activated", toString report.activated.length),
    ("action", report.action)]⟩

end Report

/-- What a visitor wants after a report. -/
inductive Verdict
  | goOn
  | stop
  deriving Repr, DecidableEq

/-- What is left of a run: the number of its hours or the failure that ended it, what the
visitor remembers, and the environment. -/
structure Run (σ : Type) where
  ticks : Except Failure Nat
  memory : σ
  environment : Environment

/-- An engine in a climate.  It writes to a log, and may take a rest between two hours. -/
structure Simulator (m : Type → Type) where
  engine : Engine m
  log : Logger m
  climate : Climate
  /-- What is done between two hours of a run. -/
  rest : m Unit

namespace Simulator

variable {m : Type → Type}

/-- An engine in the climate of its own weather categories. -/
def ofEngine (engine : Engine m) (log : Logger m) (chance : Float) (rest : m Unit) :
    Simulator m where
  engine := engine
  log := log
  climate := ⟨engine.categories.weather, chance⟩
  rest := rest

variable [Monad m] {σ : Type}

/-- Simulate one hour.  The environment moves on even when the engine fails. -/
def tick (simulator : Simulator m) (environment : Environment) :
    m (Except Failure Report × Environment) := do
  let (observation, environment) := environment.advance simulator.climate
  match ← simulator.engine.evaluate observation.sample with
  | .error failure => return (.error failure, environment)
  | .ok outcome =>
    let report : Report := ⟨observation, outcome.activated, outcome.selected⟩
    simulator.log report.logRecord
    return (.ok report, environment)

/-- Simulate up to so many hours after some others. -/
def continueWith (simulator : Simulator m) (visit : σ → Report → m (σ × Verdict)) :
    (hours done : Nat) → σ → Environment → m (Run σ)
  | 0, done, memory, environment => return ⟨.ok done, memory, environment⟩
  | hours + 1, done, memory, environment => do
    match ← simulator.tick environment with
    | (.error failure, environment) => return ⟨.error failure, memory, environment⟩
    | (.ok report, environment) =>
      match ← visit memory report with
      | (memory, .stop) => return ⟨.ok (done + 1), memory, environment⟩
      | (memory, .goOn) => do
        if hours ≠ 0 then simulator.rest
        simulator.continueWith visit hours (done + 1) memory environment

/-- Simulate up to so many hours.  A visitor is told about each of them, remembers what it
wants, and may stop the run. -/
def runWith (simulator : Simulator m) (visit : σ → Report → m (σ × Verdict)) (hours : Nat)
    (memory : σ) (environment : Environment) : m (Run σ) := do
  simulator.log ⟨.info, "starting street light simulation", [
    ("hours", toString hours),
    ("start_hour", toString environment.hour.val),
    ("rules", simulator.engine.source.description)]⟩
  let run ← simulator.continueWith visit hours 0 memory environment
  match run.ticks with
  | .error _ => return run
  | .ok ticks => do
    simulator.log ⟨.info, "simulation finished", [("ticks", toString ticks)]⟩
    return run

/-- Simulate so many hours and keep all reports. -/
def run (simulator : Simulator m) (hours : Nat) (environment : Environment) :
    m (Except Failure (List Report) × Environment) := do
  let run ← simulator.runWith (fun reports report => return (reports ++ [report], .goOn))
    hours [] environment
  return (run.ticks.map fun _ => run.memory, run.environment)

end Simulator

end Lamplight
