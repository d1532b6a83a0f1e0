import Mathlib.Logic.Function.Iterate
import Lamplight.Simulation.Basic

/-!
# The environment is independent of the rules

An hour of a simulation moves the environment on before any rule is looked at, so that the
environment and what is observed in it are the same for every engine, whether it decides or fails.
`Environment.Passes` says so of the results of some hours, and holds of every sequence of ticks
(`Simulator.Ticks`), which is what a run and a session are made of.
-/

namespace Lamplight

namespace Environment

variable {climate : Climate} {environment middle later : Environment}
  {results more : List (Except Failure Report)}

/-- The environment one hour later. -/
def next (climate : Climate) (environment : Environment) : Environment :=
  (environment.advance climate).2

/-- What is observed in the next hour. -/
def observed (climate : Climate) (environment : Environment) : Observation :=
  (environment.advance climate).1

theorem hour_iterate_next (count : Nat) (environment : Environment) :
    ((next climate)^[count] environment).hour.val = (environment.hour.val + count) % 24 := by
  induction count with
  | zero => exact (Nat.mod_eq_of_lt environment.hour.isLt).symm
  | succ count ih =>
    rw [Function.iterate_succ_apply']
    show (((next climate)^[count] environment).hour + 1).val = _
    rw [Fin.val_add, ih]
    exact Nat.mod_add_mod _ _ _

/-- Some hours lead from one environment to another, and those that have a report have one of what
is observed then. -/
def Passes (climate : Climate) : Environment → List (Except Failure Report) → Environment → Prop
  | environment, [], later => later = environment
  | environment, result :: results, later =>
    (∀ report, result = .ok report → report.observation = environment.observed climate) ∧
      Passes climate (environment.next climate) results later

namespace Passes

theorem append (first : Passes climate environment results middle)
    (second : Passes climate middle more later) :
    Passes climate environment (results ++ more) later := by
  induction results generalizing environment with
  | nil =>
    cases first
    exact second
  | cons result rest ih => exact ⟨first.1, ih first.2⟩

/-- Only the number of hours matters for where they lead. -/
theorem eq_iterate (passes : Passes climate environment results later) :
    later = (next climate)^[results.length] environment := by
  induction results generalizing environment with
  | nil => exact passes
  | cons result rest ih => exact ih passes.2

/-- The clock goes once around in 24 hours. -/
theorem hour_eq (passes : Passes climate environment results later) :
    later.hour.val = (environment.hour.val + results.length) % 24 := by
  rw [passes.eq_iterate, hour_iterate_next]

/-- Only the place of an hour matters for what is observed in it. -/
theorem observation_eq (passes : Passes climate environment results later) {index : Nat}
    {report : Report} (found : results[index]? = some (.ok report)) :
    report.observation = ((next climate)^[index] environment).observed climate := by
  induction results generalizing environment index with
  | nil => cases found
  | cons result rest ih =>
    cases index with
    | zero =>
      rw [List.getElem?_cons_zero, Option.some_inj] at found
      exact passes.1 report found
    | succ index =>
      rw [List.getElem?_cons_succ] at found
      exact ih passes.2 found

end Passes

end Environment

/-- The report of an hour in which an engine came to a decision. -/
def Report.ofOutcome (observation : Observation) (outcome : Outcome) : Report :=
  ⟨observation, outcome.activated, outcome.selected⟩

/-- A run of which less is remembered. -/
def Run.view {σ τ : Type} (view : τ → σ) (run : Run τ) : Run σ :=
  ⟨run.ticks, view run.memory, run.environment⟩

namespace Simulator

section Lawful

variable {m : Type → Type} [Monad m] {σ τ : Type}

/-- What an engine decides on an observation, with the log record about it. -/
def decision (simulator : Simulator m) (observation : Observation) :
    m (Except Failure Outcome) := do
  match ← simulator.engine.evaluate observation.sample with
  | .error failure => return .error failure
  | .ok outcome =>
    simulator.log (Report.ofOutcome observation outcome).logRecord
    return .ok outcome

/-- A visitor that keeps the reports it is told about beside what it remembers. -/
def noting (visit : σ → Report → m (σ × Verdict)) (memory : σ × List Report) (report : Report) :
    m ((σ × List Report) × Verdict) := do
  let (remembered, verdict) ← visit memory.1 report
  return ((remembered, memory.2 ++ [report]), verdict)

/-- A visitor that remembers nothing and never stops a run. -/
def watching (_ : Unit) (_ : Report) : m (Unit × Verdict) := return ((), .goOn)

variable [LawfulMonad m] (simulator : Simulator m)

/-- The environment of the next hour is there before the engine decides, and the decision has no
part in it. -/
theorem tick_eq (environment : Environment) :
    simulator.tick environment = do
      let outcome ← simulator.decision (environment.observed simulator.climate)
      return (outcome.map (.ofOutcome (environment.observed simulator.climate)),
        environment.next simulator.climate) := by
  simp only [tick, decision, bind_assoc]
  refine bind_congr fun answer => ?_
  cases answer <;> simp [Environment.observed, Environment.next, Report.ofOutcome, Except.map]

/-- Visitors that differ only in how much they remember see the same run. -/
theorem continueWith_view {visit : σ → Report → m (σ × Verdict)}
    {wider : τ → Report → m (τ × Verdict)} (view : τ → σ)
    (same : ∀ memory report, visit (view memory) report = do
      let visited ← wider memory report
      return (view visited.1, visited.2))
    (hours done : Nat) (memory : τ) (environment : Environment) :
    simulator.continueWith visit hours done (view memory) environment = do
      let run ← simulator.continueWith wider hours done memory environment
      return run.view view := by
  induction hours generalizing done memory environment with
  | zero => simp [continueWith, Run.view]
  | succ hours ih =>
    simp only [continueWith, bind_assoc]
    refine bind_congr fun ticked => ?_
    obtain ⟨result, environment⟩ := ticked
    cases result with
    | error failure => simp [Run.view]
    | ok report =>
      simp only [same, bind_assoc, pure_bind]
      refine bind_congr fun visited => ?_
      obtain ⟨remembered, verdict⟩ := visited
      cases verdict with
      | stop => simp [Run.view]
      | goOn =>
        by_cases last : hours = 0
        · simp [last, continueWith, Run.view]
        · simp only [ne_eq, last, not_false_eq_true, if_true, bind_assoc]
          refine bind_congr fun _ => ?_
          exact ih _ _ _

theorem runWith_view {visit : σ → Report → m (σ × Verdict)}
    {wider : τ → Report → m (τ × Verdict)} (view : τ → σ)
    (same : ∀ memory report, visit (view memory) report = do
      let visited ← wider memory report
      return (view visited.1, visited.2))
    (hours : Nat) (memory : τ) (environment : Environment) :
    simulator.runWith visit hours (view memory) environment = do
      let run ← simulator.runWith wider hours memory environment
      return run.view view := by
  simp only [runWith, bind_assoc, simulator.continueWith_view view same, pure_bind]
  refine bind_congr fun _ => bind_congr fun run => ?_
  obtain ⟨ticks, remembered, environment⟩ := run
  cases ticks <;> simp [Run.view]

/-- Keeping reports beside changes nothing else of a run. -/
theorem runWith_noting (visit : σ → Report → m (σ × Verdict)) (hours : Nat) (memory : σ)
    (environment : Environment) :
    simulator.runWith visit hours memory environment = do
      let run ← simulator.runWith (noting visit) hours (memory, []) environment
      return run.view Prod.fst :=
  simulator.runWith_view Prod.fst (fun _ _ => by simp [noting]) hours (memory, []) environment

/-- Keeping all reports is noting them without any other interest. -/
theorem run_eq_watching (hours : Nat) (environment : Environment) :
    simulator.run hours environment = do
      let run ← simulator.runWith (noting watching) hours ((), []) environment
      return (run.ticks.map fun _ => run.memory.2, run.environment) := by
  have viewed : simulator.runWith (fun reports report => return (reports ++ [report], .goOn)) hours
      [] environment = do
        let run ← simulator.runWith (noting watching) hours ((), []) environment
        return run.view Prod.snd :=
    simulator.runWith_view Prod.snd (fun _ _ => by simp [noting, watching]) hours ((), [])
      environment
  simp only [run, viewed, bind_assoc, pure_bind, Run.view]

end Lawful

end Simulator

/-! ## Programs in a world -/

/-- Whatever the world is like, a program has a result with some property. -/
def Always {ω α : Type} (property : α → Prop) (program : StateM ω α) : Prop :=
  ∀ world, property (program.run world).1

namespace Always

variable {ω α β : Type} {property : α → Prop} {target : β → Prop}

theorem pure {value : α} (holds : property value) :
    Always property (Pure.pure value : StateM ω α) := by
  intro world
  exact holds

theorem bind {first : StateM ω α} {rest : α → StateM ω β} (before : Always property first)
    (after : ∀ value, property value → Always target (rest value)) :
    Always target (first >>= rest) := by
  intro world
  exact after _ (before world) _

/-- A property that does not hang on the result of a first part. -/
theorem skip {first : StateM ω α} {rest : α → StateM ω β}
    (after : ∀ value, Always target (rest value)) : Always target (first >>= rest) := by
  intro world
  exact after _ _

end Always

/-! ## Sessions -/

/-- The results of the hours of a run of which all reports were noted. -/
def Run.results {σ : Type} (run : Run (σ × List Report)) : List (Except Failure Report) :=
  run.memory.2.map .ok ++
    match run.ticks with
    | .error failure => [.error failure]
    | .ok _ => []

/-- What a simulator can be asked for, where `ω` is the world in which it is. -/
inductive Request (ω : Type) : Type 1
  /-- One hour. -/
  | hour
  /-- So many hours, with all their reports. -/
  | run (hours : Nat)
  /-- Up to so many hours, about which a visitor is told. -/
  | runWith {σ : Type} (visit : σ → Report → StateM ω (σ × Verdict)) (hours : Nat) (memory : σ)

namespace Simulator

variable {ω σ : Type}

/-- Do what is asked for. -/
def call (simulator : Simulator (StateM ω)) (environment : Environment) :
    Request ω → StateM ω Environment
  | .hour => do
    let ticked ← simulator.tick environment
    return ticked.2
  | .run hours => do
    let ran ← simulator.run hours environment
    return ran.2
  | .runWith visit hours memory => do
    let run ← simulator.runWith visit hours memory environment
    return run.environment

/-- Do what is asked for and keep the results of all its hours, also of those before one that
failed. -/
def perform (simulator : Simulator (StateM ω)) (environment : Environment) :
    Request ω → StateM ω (List (Except Failure Report) × Environment)
  | .hour => do
    let (result, environment) ← simulator.tick environment
    return ([result], environment)
  | .run hours => do
    let run ← simulator.runWith (noting watching) hours ((), []) environment
    return (run.results, run.environment)
  | .runWith visit hours memory => do
    let run ← simulator.runWith (noting visit) hours (memory, []) environment
    return (run.results, run.environment)

/-- Do all that is asked for, one thing after the other, and keep the results of all hours. -/
def session (simulator : Simulator (StateM ω)) (environment : Environment) :
    List (Request ω) → StateM ω (List (Except Failure Report) × Environment)
  | [] => return ([], environment)
  | request :: rest => do
    let (results, environment) ← simulator.perform environment request
    let (more, environment) ← simulator.session environment rest
    return (results ++ more, environment)

variable (simulator : Simulator (StateM ω))

/-- Nothing but the results is added to what a call does. -/
theorem call_eq (environment : Environment) (request : Request ω) :
    simulator.call environment request = do
      let done ← simulator.perform environment request
      return done.2 := by
  cases request with
  | hour => simp only [call, perform, bind_assoc, pure_bind]
  | run hours => simp only [call, perform, run_eq_watching, bind_assoc, pure_bind]
  | runWith visit hours memory =>
    rw [call, runWith_noting]
    simp only [perform, bind_assoc, pure_bind, Run.view]

theorem foldlM_call (environment : Environment) (requests : List (Request ω)) :
    requests.foldlM simulator.call environment = do
      let done ← simulator.session environment requests
      return done.2 := by
  induction requests generalizing environment with
  | nil => rfl
  | cons request rest ih =>
    simp only [List.foldlM_cons, call_eq, ih, session, bind_assoc, pure_bind]

/-- A tick is one hour of the environment, whatever the engine does. -/
theorem passes_tick (environment : Environment) :
    Always (fun ticked => environment.Passes simulator.climate [ticked.1] ticked.2)
      (simulator.tick environment) := by
  rw [tick_eq]
  refine .skip fun outcome => .pure ⟨?_, rfl⟩
  intro report decided
  cases outcome with
  | error failure => cases decided
  | ok outcome =>
    cases decided
    rfl

/-- Ticks, each of them in some world, lead from one environment to another and have some
results. -/
def Ticks (simulator : Simulator (StateM ω)) :
    Environment → List (Except Failure Report) → Environment → Prop
  | environment, [], later => later = environment
  | environment, result :: results, later => ∃ world middle,
      ((simulator.tick environment).run world).1 = (result, middle) ∧
        simulator.Ticks middle results later

namespace Ticks

variable {simulator} {environment middle later : Environment}
  {results more : List (Except Failure Report)}

theorem append (first : simulator.Ticks environment results middle)
    (second : simulator.Ticks middle more later) :
    simulator.Ticks environment (results ++ more) later := by
  induction results generalizing environment with
  | nil =>
    cases first
    exact second
  | cons result rest ih =>
    obtain ⟨world, between, ticked, first⟩ := first
    exact ⟨world, between, ticked, ih first⟩

/-- Ticks are hours of the environment. -/
theorem passes (ticks : simulator.Ticks environment results later) :
    environment.Passes simulator.climate results later := by
  induction results generalizing environment with
  | nil => exact ticks
  | cons result rest ih =>
    obtain ⟨world, between, ticked, ticks⟩ := ticks
    have first := simulator.passes_tick environment world
    rw [ticked] at first
    exact first.append (ih ticks)

end Ticks

theorem ticks_tick (environment : Environment) :
    Always (fun ticked => simulator.Ticks environment [ticked.1] ticked.2)
      (simulator.tick environment) :=
  fun world => ⟨world, _, rfl, rfl⟩

/-- A run goes on tick by tick until it ends, and its notes are about all of them. -/
theorem ticks_continueWith (visit : σ → Report → StateM ω (σ × Verdict)) (hours done : Nat)
    (memory : σ) (notes : List Report) (environment : Environment) :
    Always (fun run => ∃ results, run.results = notes.map .ok ++ results ∧
        simulator.Ticks environment results run.environment)
      (simulator.continueWith (noting visit) hours done (memory, notes) environment) := by
  induction hours generalizing done memory notes environment with
  | zero => exact .pure ⟨[], rfl, rfl⟩
  | succ hours ih =>
    rw [continueWith]
    refine (simulator.ticks_tick environment).bind ?_
    rintro ⟨result, later⟩ first
    cases result with
    | error failure => exact .pure ⟨[.error failure], rfl, first⟩
    | ok report =>
      simp only [noting, bind_assoc, pure_bind]
      refine .skip fun visited => ?_
      obtain ⟨remembered, verdict⟩ := visited
      cases verdict with
      | stop => exact .pure ⟨[.ok report], by simp [Run.results], first⟩
      | goOn =>
        have rest : Always (fun run => ∃ results, run.results = notes.map .ok ++ results ∧
            simulator.Ticks environment results run.environment)
            (simulator.continueWith (noting visit) hours (done + 1)
              (remembered, notes ++ [report]) later) := by
          intro world
          obtain ⟨results, noted, ticks⟩ :=
            ih (done + 1) remembered (notes ++ [report]) later world
          exact ⟨.ok report :: results, by simpa using noted, first.append ticks⟩
        by_cases last : hours = 0
        · simpa only [last, ne_eq, not_true_eq_false, if_false] using rest
        · simpa only [last, ne_eq, not_false_eq_true, if_true] using .skip fun _ => rest

theorem ticks_runWith (visit : σ → Report → StateM ω (σ × Verdict)) (hours : Nat) (memory : σ)
    (environment : Environment) :
    Always (fun run => simulator.Ticks environment run.results run.environment)
      (simulator.runWith (noting visit) hours (memory, []) environment) := by
  refine .skip fun _ => (simulator.ticks_continueWith visit hours 0 memory [] environment).bind ?_
  rintro run ⟨results, noted, ticks⟩
  have whole : simulator.Ticks environment run.results run.environment := by
    rwa [noted]
  cases run.ticks with
  | error failure => exact .pure whole
  | ok ticks => exact .skip fun _ => .pure whole

theorem ticks_perform (environment : Environment) (request : Request ω) :
    Always (fun done => simulator.Ticks environment done.1 done.2)
      (simulator.perform environment request) := by
  cases request with
  | hour => exact (simulator.ticks_tick environment).bind fun _ ticks => .pure ticks
  | run hours =>
    exact (simulator.ticks_runWith watching hours () environment).bind fun _ ticks => .pure ticks
  | runWith visit hours memory =>
    exact (simulator.ticks_runWith visit hours memory environment).bind fun _ ticks => .pure ticks

/-- All hours of a session are ticks, one after the other. -/
theorem ticks_session (requests : List (Request ω)) (environment : Environment) :
    Always (fun done => simulator.Ticks environment done.1 done.2)
      (simulator.session environment requests) := by
  induction requests generalizing environment with
  | nil => exact .pure rfl
  | cons request rest ih =>
    refine (simulator.ticks_perform environment request).bind ?_
    rintro ⟨results, middle⟩ first
    refine (ih middle).bind ?_
    rintro ⟨more, later⟩ second
    exact .pure (first.append second)

/-- All hours of a session are consecutive hours of the environment. -/
theorem passes_session (requests : List (Request ω)) (environment : Environment) :
    Always (fun done => environment.Passes simulator.climate done.1 done.2)
      (simulator.session environment requests) :=
  fun world => (simulator.ticks_session requests environment world).passes

/-- Simulators with the same weather categories, chance, start and seed go through the same
environments and observe the same in every hour, in whatever worlds they are, whatever their rules
say or fail to say, and however their hours are asked for.  `session` keeps the results of all hours
of the calls, and leaves the environment that the calls themselves leave. -/
theorem same_environment {υ : Type} {engine : Engine (StateM ω)} {other : Engine (StateM υ)}
    (sameWeathers : engine.categories.weather = other.categories.weather) (chance : Float)
    (startHour : Nat) (seed : UInt64) (log : Logger (StateM ω)) (otherLog : Logger (StateM υ))
    (rest : StateM ω Unit) (otherRest : StateM υ Unit) (requests : List (Request ω))
    (otherRequests : List (Request υ)) (world : ω) (otherWorld : υ) :
    let one := ofEngine engine log chance rest
    let two := ofEngine other otherLog chance otherRest
    let start := Environment.start one.climate startHour seed
    let otherStart := Environment.start two.climate startHour seed
    let left := ((one.session start requests).run world).1
    let right := ((two.session otherStart otherRequests).run otherWorld).1
    (((requests.foldlM one.call start).run world).1 = left.2 ∧
      ((otherRequests.foldlM two.call otherStart).run otherWorld).1 = right.2) ∧
    (left.2.hour.val = (startHour % 24 + left.1.length) % 24 ∧
      right.2.hour.val = (startHour % 24 + right.1.length) % 24) ∧
    (left.1.length = right.1.length → left.2 = right.2) ∧
    ∀ (index : Nat) report otherReport, left.1[index]? = some (.ok report) →
      right.1[index]? = some (.ok otherReport) → report.observation = otherReport.observation := by
  intro one two start otherStart left right
  have sameClimate : one.climate = two.climate := congrArg (Climate.mk · chance) sameWeathers
  have sameStart : start = otherStart :=
    congrArg (Environment.start · startHour seed) sameClimate
  have leftPasses : start.Passes one.climate left.1 left.2 :=
    one.passes_session requests start world
  have rightPasses : start.Passes one.climate right.1 right.2 := by
    rw [sameStart, sameClimate]
    exact two.passes_session otherRequests otherStart otherWorld
  refine ⟨⟨?_, ?_⟩, ⟨leftPasses.hour_eq, rightPasses.hour_eq⟩, ?_, ?_⟩
  · rw [foldlM_call]
    rfl
  · rw [foldlM_call]
    rfl
  · intro equal
    rw [leftPasses.eq_iterate, rightPasses.eq_iterate, equal]
  · intro index report otherReport found otherFound
    exact (leftPasses.observation_eq found).trans (rightPasses.observation_eq otherFound).symm

/-- A source that answers every other time. -/
def intermittent : RuleSource (StateM Nat) where
  fetch := do
    let asked ← get
    set (asked + 1)
    return if asked % 2 = 0 then .error (.ofMessage .unavailable "no answer") else .ok []

/-- A visitor that stops a run after its second report. -/
def leaving (seen : Nat) (_ : Report) : StateM Unit (Nat × Verdict) :=
  return (seen + 1, if seen = 0 then .goOn else .stop)

/-- From 23:00 on, two hours without an answer around one without rules, against three hours with
the bundled rules. -/
theorem same_environment_of_failures :
    let broken : Engine (StateM Nat) := ⟨.standard, intermittent, .silent⟩
    let bundled : Engine (StateM Unit) :=
      ⟨{ Categories.standard with time := .empty }, .bundled, .silent⟩
    let one := ofEngine broken .silent 0.5 (pure ())
    let two := ofEngine bundled .silent 0.5 (pure ())
    let left := ((one.session (.start one.climate 23 42) [.hour, .run 3]).run 0).1
    let right := ((two.session (.start two.climate 23 42) [.runWith leaving 5 0, .hour]).run ()).1
    left.1.map Except.isOk = [false, true, false] ∧ right.1.map Except.isOk = [true, true, true] ∧
      left.2 = right.2 ∧ left.2.hour.val = 2 := by
  intro broken bundled one two left right
  obtain ⟨-, ⟨hour, -⟩, equal, -⟩ := @same_environment Nat Unit broken bundled rfl 0.5 23 42 .silent
    .silent (pure ()) (pure ()) [.hour, .run 3] [.runWith leaving 5 0, .hour] 0 ()
  have results : left.1.map Except.isOk = [false, true, false] := by decide +kernel
  have otherResults : right.1.map Except.isOk = [true, true, true] := by decide +kernel
  have length : left.1.length = 3 := by simpa using congrArg List.length results
  have otherLength : right.1.length = 3 := by simpa using congrArg List.length otherResults
  refine ⟨results, otherResults, equal (length.trans otherLength.symm), hour.trans ?_⟩
  show (23 % 24 + left.1.length) % 24 = 2
  rw [length]

end Simulator

end Lamplight
