import Mathlib.Order.Bounds.Defs
import Lamplight.Proofs.Simulation.Hour

/-!
# A run is its hours

A run makes one tick after the other, tells the visitor about each report before the next tick, and
ends with the first of three: its last hour, an hour that fails, a report after which the visitor
stops it.  The theorems are equations between programs, in which all that is done outside stands in
its order.
-/

namespace Lamplight

namespace Installation

variable {ρ σ : Type} {m : Type → Type} (installation : Installation ρ m)

/-! ## Where a run ends -/

/-- Whether a run ends with an hour: the hour fails, or the visitor stops the run. -/
def Ends (visitor : Visitor σ m) (memory : σ) (state : Environment × ρ) (index : Nat) : Prop :=
  match installation.result state index with
  | .error _ => True
  | .ok report =>
    (visitor.visit (visitor.remembered memory (installation.reports state index)) report).2 = .stop

/-- The numbers of hours after which a run can end. -/
def endings (visitor : Visitor σ m) (memory : σ) (state : Environment × ρ) (hours : Nat) :
    Set Nat :=
  { count | count = hours ∨ ∃ index, count = index + 1 ∧
    installation.Ends visitor memory state index }

section Ending

variable {visitor : Visitor σ m} {memory : σ} {state : Environment × ρ} {report : Report}

theorem reports_succ (first : installation.result state 0 = .ok report) (count : Nat) :
    installation.reports state (count + 1) =
      report :: installation.reports (installation.hour state).2 count := by
  rw [Nat.add_comm, reports_add]
  show [0].filterMap (fun index => (installation.result state index).toOption) ++ _ = _
  simp only [List.filterMap_cons, List.filterMap_nil, first, Except.toOption, List.cons_append,
    List.nil_append]
  rfl

theorem ends_succ_iff (first : installation.result state 0 = .ok report) (index : Nat) :
    installation.Ends visitor memory state (index + 1) ↔
      installation.Ends visitor (visitor.visit memory report).1 (installation.hour state).2
        index := by
  rw [Ends, Ends, reports_succ installation first]
  rfl

theorem counted_succ (first : installation.result state 0 = .ok report) (ticks done : Nat) :
    (installation.counted state (ticks + 1)).map (done + ·) =
      (installation.counted (installation.hour state).2 ticks).map (done + 1 + ·) := by
  cases ticks with
  | zero => simp [counted, first, Except.map]
  | succ index =>
    have same : installation.result state (index + 1) =
        installation.result (installation.hour state).2 index := rfl
    rw [counted, counted, same]
    cases installation.result (installation.hour state).2 index with
    | error failure => rfl
    | ok report => simp [Except.map, Nat.add_comm, Nat.add_left_comm]

/-- A run that ends with its first hour. -/
theorem isLeast_one (ends : installation.Ends visitor memory state 0) (hours : Nat) :
    IsLeast (installation.endings visitor memory state (hours + 1)) 1 := by
  refine ⟨.inr ⟨0, rfl, ends⟩, ?_⟩
  rintro count (rfl | ⟨index, rfl, -⟩)
  · exact Nat.le_add_left 1 hours
  · exact Nat.le_add_left 1 index

/-- A run that goes on after its first hour ends as the rest of it does. -/
theorem isLeast_succ (first : installation.result state 0 = .ok report)
    (goesOn : (visitor.visit memory report).2 = .goOn) {hours ticks : Nat}
    (least : IsLeast (installation.endings visitor (visitor.visit memory report).1
      (installation.hour state).2 hours) ticks) :
    IsLeast (installation.endings visitor memory state (hours + 1)) (ticks + 1) := by
  constructor
  · rcases least.1 with rfl | ⟨index, rfl, ends⟩
    · exact .inl rfl
    · exact .inr ⟨index + 1, rfl, (installation.ends_succ_iff first index).mpr ends⟩
  · rintro count (rfl | ⟨index, rfl, ends⟩)
    · exact Nat.succ_le_succ (least.2 (.inl rfl))
    · cases index with
      | zero =>
        rw [Ends, first] at ends
        have stops : (visitor.visit memory report).2 = .stop := ends
        rw [goesOn] at stops
        cases stops
      | succ index =>
        have still := (installation.ends_succ_iff first index).mp ends
        exact Nat.succ_le_succ (least.2 (.inr ⟨index, rfl, still⟩))

theorem eq_zero_iff {hours ticks : Nat}
    (least : IsLeast (installation.endings visitor memory state hours) ticks) :
    ticks = 0 ↔ hours = 0 := by
  constructor
  · rintro rfl
    rcases least.1 with equal | ⟨index, equal, -⟩
    · exact equal.symm
    · cases equal
  · rintro rfl
    exact Nat.le_zero.mp (least.2 (.inl rfl))

/-- Hours that do not fail have a report each. -/
theorem length_reports {state : Environment × ρ} {count : Nat}
    (succeed : ∀ index < count, ∃ report, installation.result state index = .ok report) :
    (installation.reports state count).length = count := by
  induction count with
  | zero => rfl
  | succ count ih =>
    obtain ⟨report, found⟩ := succeed count (Nat.lt_succ_self count)
    have earlier := ih fun index below => succeed index (Nat.lt_succ_of_lt below)
    rw [reports_add, List.length_append, earlier]
    have last : installation.result (installation.after state count) 0 = .ok report := found
    simp [reports, last, Except.toOption]

/-- Before the last hour of a run none fails. -/
theorem result_of_isLeast {hours ticks : Nat}
    (least : IsLeast (installation.endings visitor memory state hours) ticks) {index : Nat}
    (earlier : index + 1 < ticks) :
    ∃ report, installation.result state index = .ok report := by
  cases found : installation.result state index with
  | ok report => exact ⟨report, rfl⟩
  | error failure =>
    have ends : installation.Ends visitor memory state index := by
      rw [Ends, found]
      trivial
    exact absurd (least.2 (.inr ⟨index, rfl, ends⟩)) (Nat.not_le.mpr earlier)

/-- A run that fails has a report of every hour but the last. -/
theorem counted_cases {hours ticks : Nat}
    (least : IsLeast (installation.endings visitor memory state hours) ticks) :
    (installation.counted state ticks = .ok ticks ∧
      (installation.reports state ticks).length = ticks) ∨
    ∃ failure, installation.counted state ticks = .error failure ∧
      (installation.reports state ticks).length + 1 = ticks := by
  cases ticks with
  | zero => exact .inl ⟨rfl, rfl⟩
  | succ index =>
    have earlier : ∀ before < index, ∃ report, installation.result state before = .ok report :=
      fun before below => installation.result_of_isLeast least (Nat.succ_lt_succ below)
    cases last : installation.result state index with
    | ok report =>
      refine .inl ⟨by rw [counted, last]; rfl, installation.length_reports fun before below => ?_⟩
      rcases Nat.lt_succ_iff_lt_or_eq.mp below with below | rfl
      · exact earlier before below
      · exact ⟨report, last⟩
    | error failure =>
      have same : installation.result (installation.after state index) 0 = .error failure := last
      refine .inr ⟨failure, by rw [counted, last]; rfl, ?_⟩
      rw [reports_add, List.length_append, installation.length_reports earlier]
      simp [reports, same, Except.toOption]

section Steady

variable (goesOn : ∀ memory report, (visitor.visit memory report).2 = .goOn)
include goesOn

/-- A run whose visitor never stops it ends before its last hour only by a failure. -/
theorem ends_iff_of_goesOn {index : Nat} : installation.Ends visitor memory state index ↔
    ∃ failure, installation.result state index = .error failure := by
  rw [Ends]
  cases installation.result state index with
  | error failure => simp
  | ok report => simp [goesOn]

/-- A run whose visitor never stops it has all its hours if none fails. -/
theorem eq_hours_of_succeed {hours ticks : Nat}
    (least : IsLeast (installation.endings visitor memory state hours) ticks)
    (succeed : ∀ index < hours, (installation.result state index).isOk = true) : ticks = hours := by
  rcases least.1 with whole | ⟨index, rfl, ends⟩
  · exact whole
  · obtain ⟨failure, failed⟩ := (installation.ends_iff_of_goesOn goesOn).mp ends
    have ok := succeed index (least.2 (.inl rfl))
    rw [failed] at ok
    cases ok

end Steady

/-- Hours of which none fails are counted. -/
theorem counted_of_succeed {hours : Nat}
    (succeed : ∀ index < hours, (installation.result state index).isOk = true) :
    installation.counted state hours = .ok hours := by
  cases hours with
  | zero => rfl
  | succ index =>
    have ok := succeed index (Nat.lt_succ_self index)
    rw [counted]
    cases found : installation.result state index with
    | error failure =>
      rw [found] at ok
      cases ok
    | ok report => rfl

/-- A run of hours of which each has a report, if no visitor stops it. -/
theorem whole_of_reports {hours ticks : Nat} {report : Nat → Report}
    (goesOn : ∀ memory report, (visitor.visit memory report).2 = .goOn)
    (least : IsLeast (installation.endings visitor memory state hours) ticks)
    (hour : ∀ index, installation.result state index = .ok (report index)) :
    installation.counted state ticks = .ok hours ∧
      installation.reports state ticks = (List.range hours).map report := by
  have succeed : ∀ index < hours, (installation.result state index).isOk = true := by
    intro index _
    rw [hour]
    rfl
  rw [installation.eq_hours_of_succeed goesOn least succeed]
  refine ⟨installation.counted_of_succeed succeed, ?_⟩
  simp only [reports, hour, Except.toOption, List.filterMap_eq_map']

/-- A run of hours that all fail: the first failure ends it. -/
theorem failed_of_failures {hours ticks : Nat} {failure : Failure}
    (least : IsLeast (installation.endings visitor memory state hours) ticks)
    (hour : ∀ index, installation.result state index = .error failure) :
    installation.counted state ticks = (if hours = 0 then .ok 0 else .error failure) ∧
      installation.reports state ticks = [] := by
  refine ⟨?_, by simp [reports, hour, Except.toOption]⟩
  have zero := installation.eq_zero_iff least
  cases ticks with
  | zero =>
    rw [if_pos (zero.mp rfl)]
    rfl
  | succ index =>
    rw [if_neg fun none => Nat.succ_ne_zero index (zero.mpr none), counted, hour]
    rfl

/-- A run of which all reports are kept ends before its last hour only by a failure. -/
theorem ends_collecting_iff [Pure m] {kept : List Report} {index : Nat} :
    installation.Ends .collecting kept state index ↔
      ∃ failure, installation.result state index = .error failure :=
  installation.ends_iff_of_goesOn fun _ _ => rfl

/-- Words of 32 bits are enough to count the hours of a run. -/
theorem exists_word {hours : UInt32} {ticks : Nat}
    (least : IsLeast (installation.endings visitor memory state hours.toNat) ticks) :
    ∃ word : UInt32, word.toNat = ticks := by
  have bound : ticks ≤ hours.toNat := least.2 (.inl rfl)
  exact ⟨UInt32.ofNat ticks, UInt32.toNat_ofNat_of_lt' (Nat.lt_of_le_of_lt bound hours.toNat_lt)⟩

end Ending

/-! ## What a run does -/

/-- The rest after an hour of a run, unless it is the last one. -/
def pause [Monad m] (index ticks : Nat) : m Unit :=
  if index + 1 < ticks then installation.rest else return ()

/-- What is done outside about an hour of a run. -/
def performed [Monad m] (visitor : Visitor σ m) (memory : σ) (state : Environment × ρ)
    (ticks index : Nat) : m Unit := do
  installation.told (installation.after state index)
  match installation.result state index with
  | .error _ => return ()
  | .ok report => do
    visitor.tell (visitor.remembered memory (installation.reports state index)) report
    installation.pause index ticks

section Run

/-- The log record before a run. -/
def opening (hours : Nat) (environment : Environment) : LogRecord :=
  ⟨.info, "starting street light simulation", [
    ("hours", toString hours),
    ("start_hour", toString environment.hour.val),
    ("rules", installation.description)]⟩

/-- The log records after a run: none if it failed. -/
def closing : Except Failure Nat → List LogRecord
  | .error _ => []
  | .ok ticks => [⟨.info, "simulation finished", [("ticks", toString ticks)]⟩]

variable [Monad m]

theorem performed_zero {visitor : Visitor σ m} {memory : σ} {state : Environment × ρ}
    {report : Report} (first : installation.result state 0 = .ok report) (ticks : Nat) :
    installation.performed visitor memory state ticks 0 = (do
      installation.told state
      visitor.tell memory report
      installation.pause 0 ticks) := by
  simp [performed, first, reports, after, Visitor.remembered]

theorem performed_succ {visitor : Visitor σ m} {memory : σ} {state : Environment × ρ}
    {report : Report} (first : installation.result state 0 = .ok report) (ticks index : Nat) :
    installation.performed visitor memory state (ticks + 1) (index + 1) =
      installation.performed visitor (visitor.visit memory report).1 (installation.hour state).2
        ticks index := by
  rw [performed, performed, reports_succ installation first]
  simp only [pause, Nat.add_lt_add_iff_right]
  rfl

variable [LawfulMonad m]

theorem forM_range_succ (count : Nat) (action : Nat → m Unit) :
    forM (List.range (count + 1)) action = (do
      action 0
      forM (List.range count) fun index => action (index + 1)) := by
  rw [List.range_succ_eq_map, List.forM_cons, List.forM_map]

/-- Before the rest of a run there is a rest, unless the run is over. -/
theorem run_rest {visitor : Visitor σ m} {memory : σ} {state : Environment × ρ} {hours ticks : Nat}
    (least : IsLeast (installation.endings visitor memory state hours) ticks) {α : Type}
    (next : StateT ρ m α) (source : ρ) :
    (if hours ≠ 0 then do
        installation.simulator.rest
        next
      else next).run source = (do
      installation.pause 0 (ticks + 1)
      next.run source) := by
  have same := installation.eq_zero_iff least
  by_cases last : hours = 0
  · simp [last, same.mpr last, pause]
  · simp [last, Nat.pos_of_ne_zero (mt same.mp last), pause, simulator_rest]

/-- So many hours after others that are done. -/
def hoursAfter (visitor : Visitor σ m) (memory : σ) (state : Environment × ρ) (done ticks : Nat) :
    m (Run σ × ρ) := do
  forM (List.range ticks) (installation.performed visitor memory state ticks)
  return (⟨(installation.counted state ticks).map (done + ·),
    visitor.remembered memory (installation.reports state ticks),
    (installation.after state ticks).1⟩, (installation.after state ticks).2)

section Hours

variable {visitor : Visitor σ m} {memory : σ} {state : Environment × ρ} {report : Report}

/-- An hour that fails and is the last one. -/
theorem hoursAfter_of_error {failure : Failure}
    (failed : (installation.hour state).1 = .error failure) (done : Nat) :
    installation.hoursAfter visitor memory state done 1 = (do
      installation.told state
      return (⟨.error failure, memory, (installation.hour state).2.1⟩,
        (installation.hour state).2.2)) := by
  have first : installation.result state 0 = .error failure := failed
  simp [hoursAfter, performed, first, counted, reports, after, Except.map, Visitor.remembered,
    Except.toOption]

/-- An hour with a report that is the last one. -/
theorem hoursAfter_of_ok (succeeded : (installation.hour state).1 = .ok report) (done : Nat) :
    installation.hoursAfter visitor memory state done 1 = (do
      installation.told state
      visitor.tell memory report
      return (⟨.ok (done + 1), (visitor.visit memory report).1, (installation.hour state).2.1⟩,
        (installation.hour state).2.2)) := by
  have first : installation.result state 0 = .ok report := succeeded
  simp [hoursAfter, performed, first, counted, reports, after, Except.map, Visitor.remembered,
    Except.toOption, pause]

/-- An hour with a report before further ones. -/
theorem hoursAfter_succ (succeeded : (installation.hour state).1 = .ok report) (done ticks : Nat) :
    installation.hoursAfter visitor memory state done (ticks + 1) = (do
      installation.told state
      visitor.tell memory report
      installation.pause 0 (ticks + 1)
      installation.hoursAfter visitor (visitor.visit memory report).1 (installation.hour state).2
        (done + 1) ticks) := by
  have first : installation.result state 0 = .ok report := succeeded
  simp only [hoursAfter, forM_range_succ, installation.performed_zero first,
    installation.performed_succ first, installation.counted_succ first,
    installation.reports_succ first, after_succ, visitor.remembered_cons, bind_assoc]

end Hours

/-- The loop of a run makes its hours, up to the first after which it ends. -/
theorem run_continueWith (visitor : Visitor σ m) (hours done : Nat) (memory : σ)
    (state : Environment × ρ) :
    ∃ ticks, IsLeast (installation.endings visitor memory state hours) ticks ∧
      (installation.simulator.continueWith visitor.action hours done memory state.1).run state.2 =
        installation.hoursAfter visitor memory state done ticks := by
  induction hours generalizing done memory state with
  | zero =>
    refine ⟨0, ⟨.inl rfl, fun _ _ => Nat.zero_le _⟩, ?_⟩
    simp [Simulator.continueWith, hoursAfter, counted, Except.map, after, reports,
      Visitor.remembered]
  | succ hours ih =>
    rw [Simulator.continueWith, StateT.run_bind, run_tick]
    simp only [bind_assoc, pure_bind]
    cases first : (installation.hour state).1 with
    | error failure =>
      have ends : installation.Ends visitor memory state 0 := by
        rw [Ends, show installation.result state 0 = .error failure from first]
        trivial
      refine ⟨1, installation.isLeast_one ends hours, ?_⟩
      rw [installation.hoursAfter_of_error first]
      rfl
    | ok report =>
      simp only [Visitor.action, bind_assoc, pure_bind, StateT.run_bind, StateT.run_lift]
      cases visited : visitor.visit memory report with
      | mk remembered verdict =>
      have verdictIs : (visitor.visit memory report).2 = verdict := congrArg Prod.snd visited
      cases verdict with
      | stop =>
        have ends : installation.Ends visitor memory state 0 := by
          rw [Ends, show installation.result state 0 = .ok report from first]
          exact verdictIs
        refine ⟨1, installation.isLeast_one ends hours, ?_⟩
        rw [installation.hoursAfter_of_ok first, visited]
        rfl
      | goOn =>
        obtain ⟨ticks, least, equal⟩ :=
          ih (done + 1) (visitor.visit memory report).1 (installation.hour state).2
        refine ⟨ticks + 1, installation.isLeast_succ first verdictIs least, ?_⟩
        rw [installation.hoursAfter_succ first, ← equal, visited]
        refine bind_congr fun _ => bind_congr fun _ => ?_
        exact installation.run_rest least _ _

/-- A run that ends after so many hours: what it does outside, in its order, and what is left. -/
def account (visitor : Visitor σ m) (memory : σ) (state : Environment × ρ) (hours ticks : Nat) :
    m (Run σ × ρ) := do
  installation.log (installation.opening hours state.1)
  forM (List.range ticks) (installation.performed visitor memory state ticks)
  forM (closing (installation.counted state ticks)) installation.log
  return (⟨installation.counted state ticks,
    visitor.remembered memory (installation.reports state ticks),
    (installation.after state ticks).1⟩, (installation.after state ticks).2)

theorem run_runWith (visitor : Visitor σ m) (hours : Nat) (memory : σ) (state : Environment × ρ) :
    ∃ ticks, IsLeast (installation.endings visitor memory state hours) ticks ∧
      (installation.simulator.runWith visitor.action hours memory state.1).run state.2 =
        installation.account visitor memory state hours ticks := by
  obtain ⟨ticks, least, equal⟩ := installation.run_continueWith visitor hours 0 memory state
  refine ⟨ticks, least, ?_⟩
  have same :
      (installation.counted state ticks).map (0 + ·) = installation.counted state ticks := by
    cases installation.counted state ticks <;> simp [Except.map]
  rw [hoursAfter, same] at equal
  rw [Simulator.runWith, account]
  simp only [StateT.run_bind, equal, simulator_log, simulator_description, StateT.run_lift,
    bind_assoc, pure_bind]
  refine bind_congr fun _ => bind_congr fun _ => ?_
  cases installation.counted state ticks with
  | error failure => simp [closing]
  | ok ticks => simp [closing]

theorem collecting_action :
    (Visitor.collecting : Visitor (List Report) m).action =
      fun (reports : List Report) report => (return (reports ++ [report], .goOn) :
        StateT ρ m (List Report × Verdict)) := by
  funext reports report
  apply StateT.ext
  intro state
  simp [Visitor.action, Visitor.collecting]

theorem run_run (hours : Nat) (state : Environment × ρ) :
    ∃ ticks, IsLeast (installation.endings .collecting [] state hours) ticks ∧
      (installation.simulator.run hours state.1).run state.2 = (do
        let (run, source) ← installation.account .collecting [] state hours ticks
        return ((run.ticks.map fun _ => installation.reports state ticks, run.environment),
          source)) := by
  obtain ⟨ticks, least, equal⟩ := installation.run_runWith .collecting hours [] state
  refine ⟨ticks, least, ?_⟩
  rw [collecting_action] at equal
  simp only [Simulator.run, StateT.run_bind, equal, account, bind_assoc, pure_bind,
    Visitor.remembered_collecting, List.nil_append]
  rfl

end Run

/-! ## A run and its hours -/

/-- Whatever a program does on the way, it comes to a value. -/
def Returns {α : Type} [Monad m] (program : m α) (value : α) : Prop :=
  ∃ effects : m Unit, program = do
    effects
    return value

theorem Returns.bind {α β : Type} [Monad m] [LawfulMonad m] {first : m α} {next : α → m β}
    {value : α} {final : β} (before : Returns first value) (behind : Returns (next value) final) :
    Returns (first >>= next) final := by
  obtain ⟨effects, rfl⟩ := before
  obtain ⟨more, equal⟩ := behind
  refine ⟨do effects; more, ?_⟩
  simp only [bind_assoc, pure_bind, equal]

section Main

variable [Monad m] [LawfulMonad m]

/-- A run in which no hour fails has all its hours. -/
theorem returns_run {hours : Nat} {state : Environment × ρ}
    (succeed : ∀ index < hours, (installation.result state index).isOk = true) :
    Returns ((installation.simulator.run hours state.1).run state.2)
      ((.ok (installation.reports state hours), (installation.after state hours).1),
        (installation.after state hours).2) := by
  obtain ⟨ticks, least, equal⟩ := installation.run_run hours state
  have whole : ticks = hours := installation.eq_hours_of_succeed (fun _ _ => rfl) least succeed
  subst whole
  have done : installation.counted state ticks = .ok ticks :=
    installation.counted_of_succeed succeed
  refine ⟨do
    installation.log (installation.opening ticks state.1)
    forM (List.range ticks) (installation.performed .collecting [] state ticks)
    forM (closing (.ok ticks)) installation.log, ?_⟩
  simp only [equal, account, done, bind_assoc, pure_bind]
  rfl

/-- A run makes the ticks of single hours, up to the first after which it ends; what it does outside
and what is left of it is told by their results.  Without failures, two runs come to what one run of
all their hours comes to. -/
theorem run_is_its_hours (state : Environment × ρ) :
    (∀ index,
      (installation.simulator.tick (installation.after state index).1).run
          (installation.after state index).2 = (do
        installation.told (installation.after state index)
        return ((installation.result state index, (installation.after state (index + 1)).1),
          (installation.after state (index + 1)).2))) ∧
    (∀ {σ : Type} (visitor : Visitor σ m) (memory : σ) (hours : UInt32), ∃ ticks : UInt32,
      IsLeast { count | count = hours.toNat ∨ ∃ index, count = index + 1 ∧
        installation.Ends visitor memory state index } ticks.toNat ∧
      ((installation.counted state ticks.toNat = .ok ticks.toNat ∧
          (installation.reports state ticks.toNat).length = ticks.toNat) ∨
        ∃ failure, installation.counted state ticks.toNat = .error failure ∧
          (installation.reports state ticks.toNat).length + 1 = ticks.toNat) ∧
      (installation.simulator.runWith visitor.action hours.toNat memory state.1).run state.2 =
        installation.account visitor memory state hours.toNat ticks.toNat) ∧
    (∀ hours : UInt32, ∃ ticks : UInt32,
      IsLeast { count | count = hours.toNat ∨ ∃ index, count = index + 1 ∧
        ∃ failure, installation.result state index = .error failure } ticks.toNat ∧
      (installation.simulator.run hours.toNat state.1).run state.2 = (do
        let (run, source) ←
          installation.account .collecting [] state hours.toNat ticks.toNat
        return ((run.ticks.map fun _ => installation.reports state ticks.toNat, run.environment),
          source))) ∧
    (∀ first second : UInt32, first.toNat + second.toNat < UInt32.size →
      (∀ index < first.toNat + second.toNat, (installation.result state index).isOk = true) →
      let value := ((Except.ok (installation.reports state (first + second).toNat),
        (installation.after state (first + second).toNat).1),
        (installation.after state (first + second).toNat).2)
      Returns ((do
        let (reports, environment) ← installation.simulator.run first.toNat state.1
        let (more, environment) ← installation.simulator.run second.toNat environment
        return (do return (← reports) ++ (← more), environment)).run state.2) value ∧
      Returns ((installation.simulator.run (first + second).toNat state.1).run state.2) value) := by
  refine ⟨?_, ?_, ?_, ?_⟩
  · intro index
    rw [run_tick, after, after, Function.iterate_succ_apply']
    rfl
  · intro σ visitor memory hours
    obtain ⟨ticks, least, equal⟩ := installation.run_runWith visitor hours.toNat memory state
    obtain ⟨word, rfl⟩ := installation.exists_word least
    exact ⟨word, least, installation.counted_cases least, equal⟩
  · intro hours
    obtain ⟨ticks, least, equal⟩ := installation.run_run hours.toNat state
    obtain ⟨word, rfl⟩ := installation.exists_word least
    simp only [endings, ends_collecting_iff] at least
    exact ⟨word, least, equal⟩
  · intro first second bound succeed
    have sum : (first + second).toNat = first.toNat + second.toNat := by
      rw [UInt32.toNat_add, Nat.mod_eq_of_lt bound]
    rw [sum]
    have front := installation.returns_run fun index (below : index < first.toNat) =>
      succeed index (Nat.lt_add_right _ below)
    have back : ∀ index < second.toNat,
        (installation.result (installation.after state first.toNat) index).isOk = true := by
      intro index below
      rw [← result_add]
      exact succeed _ (Nat.add_lt_add_left below _)
    refine ⟨?_, installation.returns_run succeed⟩
    rw [StateT.run_bind]
    refine front.bind ?_
    rw [StateT.run_bind]
    refine (installation.returns_run back).bind ⟨pure (), ?_⟩
    rw [pure_bind, reports_add, after_add]
    rfl

end Main

/-- An installation whose source gives out after some fetches, and that writes down what is done. -/
def givingOut (fetches : Nat) : Installation Nat (StateM (List String)) where
  categories := .standard
  chance := 0.5
  answer asked :=
    (if asked < fetches then .ok Rule.bundled
      else .error (.ofMessage .unavailable "no answer"), asked + 1)
  description := "a source that gives out"
  fetching := modify (· ++ ["fetch"])
  record _ := modify (· ++ ["event"])
  log record := modify (· ++ [record.text])
  rest := modify (· ++ ["rest"])

/-- Two hours and three more, from 23:00 on, before the sixth fails. -/
theorem run_is_its_hours_before_failure :
    let installation := givingOut 5
    let state : Environment × Nat := (.start installation.climate 23 42, 0)
    (∀ index < 5, (installation.result state index).isOk = true) ∧
    (installation.result state 5).isOk = false ∧
    let value := ((Except.ok (installation.reports state 5), (installation.after state 5).1),
      (installation.after state 5).2)
    Returns ((do
      let (reports, environment) ← installation.simulator.run 2 state.1
      let (more, environment) ← installation.simulator.run 3 environment
      return (do return (← reports) ++ (← more), environment)).run state.2) value ∧
    Returns ((installation.simulator.run 5 state.1).run state.2) value := by
  intro installation state
  have succeed : ∀ index < 5, (installation.result state index).isOk = true := by decide +kernel
  have fails : (installation.result state 5).isOk = false := by decide +kernel
  obtain ⟨-, -, -, add⟩ := run_is_its_hours installation state
  exact ⟨succeed, fails, add 2 3 (by decide) succeed⟩

end Installation

end Lamplight
