import Lamplight.Proofs.Engine.Trace
import Lamplight.Proofs.Simulation.Environment

/-!
# One hour of a simulation

An `Installation` has all effects of a simulator apart from one another: how its source answers is a
state of its own, and what is told to others is done in a monad of which nothing is known but its
laws.  So what comes of an hour is a function of the state, what it does outside can be written
down, and a tick is the two together (`Installation.run_tick`).
-/

namespace Lamplight

/-- A simulator of which each effect is known. -/
structure Installation (ρ : Type) (m : Type → Type) where
  categories : Categories
  chance : Float
  /-- What the source answers, and its state afterwards. -/
  answer : ρ → Except Failure (List Rule) × ρ
  /-- Where the rules come from, in words. -/
  description : String
  /-- What is done outside when rules are fetched. -/
  fetching : m Unit
  record : Event → m Unit
  log : Logger m
  rest : m Unit

namespace Installation

variable {ρ σ : Type} {m : Type → Type} (installation : Installation ρ m)

/-! ## One hour -/

/-- What governs the weather. -/
def climate : Climate := ⟨installation.categories.weather, installation.chance⟩

/-- The report of an hour in which some rules were delivered. -/
def report (environment : Environment) (rules : List Rule) : Report :=
  let observation := environment.observed installation.climate
  .ofOutcome observation (.ofRules installation.categories observation.sample rules)

/-- The result of the next hour, and the state after it. -/
def hour (state : Environment × ρ) : Except Failure Report × (Environment × ρ) :=
  ((installation.answer state.2).1.map (installation.report state.1),
    (state.1.next installation.climate, (installation.answer state.2).2))

/-- The state after so many hours. -/
def after (state : Environment × ρ) (count : Nat) : Environment × ρ :=
  (fun state => (installation.hour state).2)^[count] state

/-- The result of an hour, counted from zero. -/
def result (state : Environment × ρ) (index : Nat) : Except Failure Report :=
  (installation.hour (installation.after state index)).1

/-- The reports of so many hours; an hour that failed has none. -/
def reports (state : Environment × ρ) (count : Nat) : List Report :=
  (List.range count).filterMap fun index => (installation.result state index).toOption

/-- How a run of so many hours ends: by their number, or by the failure of the last one. -/
def counted (state : Environment × ρ) : Nat → Except Failure Nat
  | 0 => .ok 0
  | index + 1 => (installation.result state index).map fun _ => index + 1

theorem after_succ (state : Environment × ρ) (count : Nat) :
    installation.after state (count + 1) =
      installation.after (installation.hour state).2 count :=
  rfl

theorem after_add (state : Environment × ρ) (first second : Nat) :
    installation.after state (first + second) =
      installation.after (installation.after state first) second := by
  rw [after, Nat.add_comm, Function.iterate_add_apply]
  rfl

/-- The environment and the source go on side by side. -/
theorem after_eq (state : Environment × ρ) (count : Nat) :
    installation.after state count = ((Environment.next installation.climate)^[count] state.1,
      (fun source => (installation.answer source).2)^[count] state.2) := by
  induction count generalizing state with
  | zero => rfl
  | succ count ih =>
    rw [after_succ, ih]
    rfl

theorem result_add (state : Environment × ρ) (first index : Nat) :
    installation.result state (first + index) =
      installation.result (installation.after state first) index := by
  rw [result, after_add]
  rfl

theorem reports_add (state : Environment × ρ) (first second : Nat) :
    installation.reports state (first + second) =
      installation.reports state first ++
        installation.reports (installation.after state first) second := by
  simp only [reports, List.range_add, List.filterMap_append, List.filterMap_map, result_add,
    Function.comp_def]

section Monad

variable [Monad m]

/-- The simulator of an installation. -/
def simulator : Simulator (StateT ρ m) :=
  .ofEngine {
      categories := installation.categories
      source := {
        fetch := do
          StateT.lift installation.fetching
          modifyGet installation.answer
        description := installation.description }
      sink := ⟨fun event => StateT.lift (installation.record event)⟩ }
    (fun record => StateT.lift (installation.log record)) installation.chance
    (StateT.lift installation.rest)

theorem simulator_log :
    installation.simulator.log = fun record => StateT.lift (installation.log record) :=
  rfl

theorem simulator_rest : installation.simulator.rest = StateT.lift installation.rest :=
  rfl

theorem simulator_description :
    installation.simulator.engine.source.description = installation.description :=
  rfl

/-- What is done outside during an hour. -/
def told (state : Environment × ρ) : m Unit := do
  let sample := (state.1.observed installation.climate).sample
  installation.record (.fuzzified sample (installation.categories.fuzzify sample))
  installation.fetching
  match (installation.answer state.2).1 with
  | .error _ => return ()
  | .ok rules => do
    forM (Event.ofRules sample rules) installation.record
    installation.log (installation.report state.1 rules).logRecord

variable [LawfulMonad m]

theorem run_forM_lift {α : Type} (items : List α) (action : α → m Unit) (state : ρ) :
    (forM items fun item => StateT.lift (action item)).run state = do
      forM items action
      return ((), state) := by
  induction items with
  | nil => simp
  | cons item rest ih => simp [ih]

/-- A tick is the next hour. -/
theorem run_tick (state : Environment × ρ) :
    (installation.simulator.tick state.1).run state.2 = do
      installation.told state
      return (((installation.hour state).1, (installation.hour state).2.1),
        (installation.hour state).2.2) := by
  rw [Simulator.tick_eq]
  simp only [Simulator.decision, Engine.evaluate_eq, bind_assoc]
  cases answered : (installation.answer state.2).1 with
  | error failure =>
    simp [simulator, Simulator.ofEngine, told, hour, answered, climate, Except.map]
  | ok rules =>
    simp [simulator, Simulator.ofEngine, told, hour, answered, climate, report, run_forM_lift,
      Except.map]

end Monad

end Installation

/-! ## Visitors -/

/-- Someone who is told about reports, and who may stop a run. -/
structure Visitor (σ : Type) (m : Type → Type) where
  tell : σ → Report → m Unit
  visit : σ → Report → σ × Verdict

namespace Visitor

variable {ρ σ : Type} {m : Type → Type}

/-- What a visitor does with a report. -/
def action [Monad m] (visitor : Visitor σ m) (memory : σ) (report : Report) :
    StateT ρ m (σ × Verdict) := do
  StateT.lift (visitor.tell memory report)
  return visitor.visit memory report

/-- What a visitor remembers of some reports. -/
def remembered (visitor : Visitor σ m) (memory : σ) (reports : List Report) : σ :=
  reports.foldl (fun memory report => (visitor.visit memory report).1) memory

/-- The visitor that keeps all reports. -/
def collecting [Pure m] : Visitor (List Report) m where
  tell _ _ := pure ()
  visit reports report := (reports ++ [report], .goOn)

theorem remembered_cons (visitor : Visitor σ m) (memory : σ) (report : Report)
    (reports : List Report) :
    visitor.remembered memory (report :: reports) =
      visitor.remembered (visitor.visit memory report).1 reports :=
  rfl

theorem remembered_collecting [Pure m] (reports kept : List Report) :
    (collecting : Visitor (List Report) m).remembered kept reports = kept ++ reports := by
  induction reports generalizing kept with
  | nil => exact (List.append_nil kept).symm
  | cons report rest ih =>
    refine (ih (kept ++ [report])).trans ?_
    rw [List.append_assoc, List.singleton_append]

end Visitor

end Lamplight
