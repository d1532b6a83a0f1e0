import Lamplight.Proofs.Simulation.Ambient
import Lamplight.Proofs.Simulation.Environment

/-!
# What holds in every hour of a simulation

Whatever an engine decides or fails to decide, the simulated world stays `Environment.Sound`: it
starts so, an hour keeps it so, and a session is a sequence of hours.  Every report is
`Report.Faithful` to the hour that it is about, and the weather of a climate without chances never
changes (`Simulator.session_sound`).
-/

namespace Lamplight

open Decimal

/-! ## The weather -/

namespace Climate

/-- The weather of an hour: one of the categories, or clear where there are none. -/
def Knows (climate : Climate) (weather : String) : Prop :=
  weather ∈ climate.weathers ∨ climate.weathers = [] ∧ weather = "clear"

/-- The place among the categories of the weather that is drawn next, should it change. -/
def place (climate : Climate) (random : Random) : Nat :=
  (random.unit.2.below climate.weathers.length).1

theorem place_lt {climate : Climate} (nonempty : climate.weathers ≠ []) (random : Random) :
    climate.place random < climate.weathers.length :=
  Random.below_lt _ (List.length_pos_iff.mpr nonempty)

/-- The weather stays, or it is the one at the place that is drawn, if chance has it. -/
theorem nextWeather_eq_or (climate : Climate) (weather : String) (random : Random) :
    (climate.nextWeather weather random).1 = weather ∨
      random.unit.1 < climate.chance ∧
        climate.weathers[climate.place random]? = some (climate.nextWeather weather random).1 := by
  unfold nextWeather place
  split
  · exact .inl rfl
  · next several =>
    generalize random.unit = drawn
    obtain ⟨luck, random⟩ := drawn
    simp only
    split
    · next lucky =>
      have nonempty : climate.weathers ≠ [] := by simpa using several
      have inside := Random.below_lt random (List.length_pos_iff.mpr nonempty)
      right
      refine ⟨lucky, ?_⟩
      simp [inside]
    · exact .inl rfl

theorem knows_initialWeather (climate : Climate) : climate.Knows climate.initialWeather := by
  unfold initialWeather Knows
  cases climate.weathers with
  | nil => exact .inr ⟨rfl, rfl⟩
  | cons first rest => exact .inl List.mem_cons_self

theorem Knows.next {climate : Climate} {weather : String} (knows : climate.Knows weather)
    (random : Random) : climate.Knows (climate.nextWeather weather random).1 := by
  rcases climate.nextWeather_eq_or weather random with same | ⟨-, found⟩
  · rwa [same]
  · exact .inl (List.mem_of_getElem? found)

/-- Without a chance the weather stays as it is. -/
theorem nextWeather_of_still {climate : Climate}
    (still : climate.chance ≤ 0 ∨ climate.chance.isNaN = true) (weather : String)
    (random : Random) : (climate.nextWeather weather random).1 = weather := by
  apply (climate.nextWeather_eq_or weather random).resolve_right
  rintro ⟨lucky, -⟩
  have isNumber := isNumber_of_lt lucky
  rcases still with never | none
  · have above := number_le_trans never random.unit_between.1
    exact (not_lt_iff_le isNumber.1 isNumber.2).mpr above lucky
  · cases none.symm.trans isNumber.2

end Climate

/-! ## The environment -/

namespace Environment

/-- What holds of the simulated world at any time. -/
structure Sound (climate : Climate) (environment : Environment) : Prop where
  hour : environment.hour.val < 24
  weather : climate.Knows environment.weather
  /-- The place that is drawn next is one among the categories. -/
  place : climate.weathers ≠ [] →
    climate.place environment.random < climate.weathers.length
  /-- The weather of the next hour is the same, or the one at the place that is drawn. -/
  next : (environment.next climate).weather = environment.weather ∨
    climate.weathers[climate.place environment.random]? =
      some (environment.next climate).weather

variable {climate : Climate} {environment : Environment}

theorem sound_start (climate : Climate) (hour : Nat) (seed : UInt64) :
    (start climate hour seed).Sound climate where
  hour := (start climate hour seed).hour.isLt
  weather := climate.knows_initialWeather
  place nonempty := Climate.place_lt nonempty _
  next := (climate.nextWeather_eq_or _ _).imp_right And.right

/-- An hour keeps the world sound. -/
theorem Sound.step (sound : environment.Sound climate) :
    (environment.next climate).Sound climate where
  hour := (environment.next climate).hour.isLt
  weather := sound.weather.next _
  place nonempty := Climate.place_lt nonempty _
  next := (climate.nextWeather_eq_or _ _).imp_right And.right

theorem Sound.iterate (sound : environment.Sound climate) (count : Nat) :
    ((Environment.next climate)^[count] environment).Sound climate := by
  induction count with
  | zero => exact sound
  | succ count ih =>
    rw [Function.iterate_succ_apply']
    exact ih.step

theorem weather_iterate_of_still (still : climate.chance ≤ 0 ∨ climate.chance.isNaN = true)
    (count : Nat) (environment : Environment) :
    ((Environment.next climate)^[count] environment).weather = environment.weather := by
  induction count with
  | zero => rfl
  | succ count ih =>
    rw [Function.iterate_succ_apply', ← ih]
    exact Climate.nextWeather_of_still still _ _

end Environment

/-! ## Reports -/

/-- A report tells the truth about the hour from one environment to the next, in which an engine
decided in some world. -/
structure Report.Faithful {ω : Type} (engine : Engine (StateM ω)) (world : ω)
    (before after : Environment) (report : Report) : Prop where
  hour : report.observation.hour = after.hour
  weather : report.observation.weather = after.weather
  changed : report.observation.changed = true ↔ after.weather ≠ before.weather
  light : 0.1 ≤ report.observation.light ∧ report.observation.light ≤ 0.9
  /-- What fired and what was selected is what the engine says of the very readings of the
  report. -/
  decided : ∃ outcome, ((engine.evaluate report.observation.sample).run world).1 = .ok outcome ∧
    report.activated = outcome.activated ∧ report.selected = Rule.select outcome.activated

/-- The light that is observed lies between a tenth and nine tenths. -/
theorem Environment.light_between (climate : Climate) (environment : Environment) :
    0.1 ≤ (environment.observed climate).light ∧ (environment.observed climate).light ≤ 0.9 := by
  obtain ⟨above, below⟩ :=
    (climate.nextWeather environment.weather environment.random).2.unit_between
  exact ambientLight_between _ _ (isNaN_jitter above below)

namespace Simulator

variable {ω : Type} (simulator : Simulator (StateM ω))

/-- What comes of a tick is what the engine says of the next observation, in the same world. -/
theorem run_tick (environment : Environment) (world : ω) :
    ((simulator.tick environment).run world).1 =
      (((simulator.engine.evaluate (environment.observed simulator.climate).sample).run
        world).1.map (.ofOutcome (environment.observed simulator.climate)),
        environment.next simulator.climate) := by
  simp only [tick_eq, decision, bind_assoc, StateT.run_bind]
  generalize (simulator.engine.evaluate _).run world = evaluated
  obtain ⟨answer, later⟩ := evaluated
  cases answer with
  | error failure => rfl
  | ok outcome => rfl

/-- A report is faithful to the tick that it came from. -/
theorem faithful_of_tick {before after : Environment} {world : ω} {report : Report}
    (ticked : ((simulator.tick before).run world).1 = (.ok report, after)) :
    report.Faithful simulator.engine world before after := by
  rw [run_tick, Prod.mk.injEq] at ticked
  obtain ⟨reported, rfl⟩ := ticked
  cases answered : ((simulator.engine.evaluate
      (before.observed simulator.climate).sample).run world).1 with
  | error failure =>
    rw [answered] at reported
    cases reported
  | ok outcome =>
    rw [answered] at reported
    cases reported
    exact {
      hour := rfl
      weather := rfl
      changed := decide_eq_true_iff
      light := before.light_between simulator.climate
      decided := ⟨outcome, answered, rfl, rfl⟩ }

namespace Ticks

variable {simulator} {environment later : Environment} {results : List (Except Failure Report)}

/-- The ticks of a session lead from one hour of the environment to the next. -/
theorem result_eq (ticks : simulator.Ticks environment results later) {index : Nat}
    {result : Except Failure Report} (found : results[index]? = some result) :
    ∃ world, ((simulator.tick ((Environment.next simulator.climate)^[index] environment)).run
      world).1 = (result, (Environment.next simulator.climate)^[index + 1] environment) := by
  induction results generalizing environment index with
  | nil => cases found
  | cons first rest ih =>
    obtain ⟨world, middle, ticked, ticks⟩ := ticks
    have moved : middle = environment.next simulator.climate := by
      rw [run_tick, Prod.mk.injEq] at ticked
      exact ticked.2.symm
    subst moved
    cases index with
    | zero =>
      rw [List.getElem?_cons_zero, Option.some_inj] at found
      subst found
      exact ⟨world, ticked⟩
    | succ index =>
      rw [List.getElem?_cons_succ] at found
      exact ih ticks found

end Ticks

/-- In every session, with whatever engine and settings: the calls leave the environment of as many
hours as they have results.  The environment of every hour is sound.  Every result is that of a tick
from one hour to the next, and every report is faithful to its hour.  Where the weather has no
chance to change, all reports have the initial one. -/
theorem session_sound (engine : Engine (StateM ω)) (chance : Float) (startHour : Nat)
    (seed : UInt64) (log : Logger (StateM ω)) (rest : StateM ω Unit) (requests : List (Request ω))
    (world : ω) :
    let simulator := ofEngine engine log chance rest
    let start := Environment.start simulator.climate startHour seed
    let state := fun index => (Environment.next simulator.climate)^[index] start
    let done := ((simulator.session start requests).run world).1
    ((requests.foldlM simulator.call start).run world).1 = state done.1.length ∧
    (∀ index, (state index).Sound simulator.climate) ∧
    (∀ (index : Nat) result, done.1[index]? = some result → ∃ world,
      ((simulator.tick (state index)).run world).1 = (result, state (index + 1)) ∧
      ∀ report, result = .ok report →
        report.Faithful engine world (state index) (state (index + 1))) ∧
    (chance ≤ 0 ∨ chance.isNaN = true → ∀ (index : Nat) report,
      done.1[index]? = some (.ok report) →
        report.observation.weather = simulator.climate.initialWeather) := by
  intro simulator start state done
  have ticks : simulator.Ticks start done.1 done.2 :=
    simulator.ticks_session requests start world
  have hours : ∀ (index : Nat) result, done.1[index]? = some result → ∃ world,
      ((simulator.tick (state index)).run world).1 = (result, state (index + 1)) ∧
      ∀ report, result = .ok report →
        report.Faithful engine world (state index) (state (index + 1)) := by
    intro index result found
    obtain ⟨between, ticked⟩ := ticks.result_eq found
    refine ⟨between, ticked, ?_⟩
    rintro report rfl
    exact simulator.faithful_of_tick ticked
  refine ⟨?_, (Environment.sound_start _ _ _).iterate, hours, ?_⟩
  · rw [foldlM_call]
    exact ticks.passes.eq_iterate
  · intro still index report found
    have chanceless : simulator.climate.chance ≤ 0 ∨ simulator.climate.chance.isNaN = true := still
    have unchanged : (state (index + 1)).weather = start.weather :=
      Environment.weather_iterate_of_still chanceless (index + 1) start
    obtain ⟨between, -, faithful⟩ := hours index _ found
    exact (faithful report rfl).weather.trans unchanged

/-- Three hours of which only the second one is decided, with a chance that is no number. -/
theorem session_sound_of_failures :
    let engine : Engine (StateM Nat) := ⟨.standard, intermittent, .silent⟩
    let simulator := ofEngine engine .silent (0 / 0) (pure ())
    let start := Environment.start simulator.climate 23 42
    let done := ((simulator.session start [.hour, .run 3]).run 0).1
    ∃ report, done.1[1]? = some (.ok report) ∧ report.observation.weather = "clear" ∧
      report.observation.hour.val = 1 ∧
      0.1 ≤ report.observation.light ∧ report.observation.light ≤ 0.9 := by
  intro engine simulator start done
  obtain ⟨-, -, hours, still⟩ := session_sound engine (0 / 0) 23 42 .silent (pure ())
    [.hour, .run 3] 0
  have second : done.1[1]?.map Except.isOk = some true := by decide +kernel
  obtain ⟨result, found, decided⟩ := Option.map_eq_some_iff.mp second
  cases result with
  | error failure => cases decided
  | ok report =>
    obtain ⟨world, -, faithful⟩ := hours 1 (.ok report) found
    have told := faithful report rfl
    have hour : report.observation.hour.val = (23 + 2) % 24 :=
      (congrArg Fin.val told.hour).trans (Environment.hour_iterate_next 2 start)
    exact ⟨report, found, still (.inr (by decide)) 1 report found, hour, told.light⟩

end Simulator

end Lamplight
