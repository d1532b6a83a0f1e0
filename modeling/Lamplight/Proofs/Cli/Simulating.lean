import Lamplight.Cli.Session
import Lamplight.Proofs.Files.Tree
import Lamplight.Proofs.Simulation.Run

/-!
# What a simulation prints

A command that simulates prints a header and then one line for every hour that has a report.  Its
files are those of any world, which may change from one look at them to the next: what is printed is
a function of what they answer.
-/

namespace Lamplight.Cli

/-! ## Sessions over files that change -/

/-- A session over any files, which may change from one look at them to the next. -/
def Session.ofFiles {ρ : Type} (files : Files (StateM ρ)) (vars : Variables) (seed : UInt64)
    (accountHome : Option Path) : Host (StateT ρ (StateM Transcript)) where
  files := {
    readText := fun path => modifyGet (files.readText path)
    writeText := fun path text => modifyGet (files.writeText path text)
    contains := fun path => modifyGet (files.contains path) }
  vars
  accountHome
  print line := StateT.lift (modify fun transcript =>
    { transcript with output := transcript.output ++ [line] })
  report line := StateT.lift (modify fun transcript =>
    { transcript with reports := transcript.reports ++ [line] })
  log record := StateT.lift (modify fun transcript =>
    { transcript with log := transcript.log ++ [record] })
  sleep _ := return ()
  freshSeed := return seed

/-- The files of a tree are changed by the program alone. -/
theorem Session.host_eq (vars : Variables) (seed : UInt64) (home : Option Path) :
    host vars seed home = ofFiles (.ofTree (StateM FileTree)) vars seed home := by
  have written : ∀ path text, (Files.ofTree Session).writeText path text =
      modifyGet ((Files.ofTree (StateM FileTree)).writeText path text) := by
    intro path text
    apply StateT.ext
    intro tree
    funext transcript
    have asked : (getThe FileTree : Session FileTree).run tree = pure (tree, tree) := rfl
    simp only [Files.ofTree, StateT.run_bind, asked, pure_bind]
    have changed := FileTree.run_writeText tree path text
    show _ = (((Files.ofTree (StateM FileTree)).writeText path text).run tree, transcript)
    rw [changed]
    cases tree.writeText path text <;> rfl
  have files : Files.ofTree Session =
      (ofFiles (.ofTree (StateM FileTree)) vars seed home).files := by
    rw [ofFiles]
    simp only [← written]
    rfl
  rw [host, files]
  rfl

/-! ## The command as a run of a simulator -/

section Lawful

variable {m : Type → Type} [Monad m]

/-- The seed of a run. -/
def Host.seed (host : Host m) : Option UInt64 → m UInt64
  | some seed => return seed
  | none => host.freshSeed

/-- What is done with the report of an hour: its line is printed under the next number. -/
def Host.visit (host : Host m) (hours : UInt32) (number : Int32) (report : Report) :
    m (Int32 × Verdict) := do
  host.print (tickLine (number + 1) hours report)
  return (number + 1, .goOn)

/-- The simulator of a command. -/
def simulator (host : Host m) (settings : Settings) (log : Logger m)
    (simulation : SimulationSettings) (rules : Option Path) : Simulator m :=
  .ofEngine (buildEngine host settings log rules) log simulation.chance
    (if simulation.tickMs = 0 then pure () else host.sleep simulation.tickMs.toNat)

/-- The line before the hours of a run. -/
def headerLine (hours : UInt32) : String := s!"Street light simulation: {hours} hours"

/-- How a command that simulates ends. -/
def ended : Except Failure Nat → Except CommandError ExitStatus
  | .error failure => .error (.simulation failure)
  | .ok _ => .ok .success

variable [LawfulMonad m]

/-- A command that simulates ends as its run does. -/
theorem run_ended (program : m (Run Int32)) :
    (do
      let run ← (program : Action m (Run Int32))
      match run.ticks with
      | .error failure => throw (.simulation failure)
      | .ok _ => return .success : Action m ExitStatus).run = do
    let run ← program
    return ended run.ticks := by
  rw [Action.run_lift_bind]
  refine bind_congr fun run => ?_
  cases run.ticks <;> rfl

theorem run_runSimulate (host : Host m) (settings : Settings) (log : Logger m)
    (simulation : SimulationSettings) (rules : Option Path) :
    (runSimulate host settings log simulation rules).run = do
      host.print (headerLine simulation.hours)
      let seed ← host.seed simulation.seed
      let simulator := simulator host settings log simulation rules
      let run ← simulator.runWith (host.visit simulation.hours) simulation.hours.toNat 0
        (.start simulator.climate simulation.startHour.toNat seed)
      return ended run.ticks := by
  rw [runSimulate, Action.run_lift_bind]
  refine bind_congr fun _ => ?_
  cases simulation.seed with
  | none =>
    refine (Action.run_lift_bind _ _).trans (bind_congr fun seed => ?_)
    exact run_ended _
  | some seed =>
    refine Eq.trans ?_ (pure_bind seed _).symm
    refine (congrArg ExceptT.run (pure_bind seed _)).trans ?_
    exact run_ended _

end Lawful

/-! ## The simulator of a session -/

section Session

variable {ρ : Type}

/-- What the source of the rules answers, from a file or with the bundled rules, and the files
afterwards. -/
def answer (files : Files (StateM ρ)) (path : Option Path) (state : ρ) :
    Except Failure (List Rule) × ρ :=
  match path with
  | none => (.ok (Rule.byPriority Rule.bundled), state)
  | some path =>
    let read := (files.readText path).run state
    (RuleSource.ofContent path (.ofPath path) read.1, read.2)

/-- Write a log record that passes a threshold. -/
def logged (threshold : LogRecord.Level) (record : LogRecord) : StateM Transcript Unit :=
  if record.level.passes threshold then
    modify fun transcript => { transcript with log := transcript.log ++ [record] }
  else pure ()

variable (files : Files (StateM ρ)) (vars : Variables) (seed : UInt64) (home : Option Path)
  (settings : Settings) (threshold : LogRecord.Level) (simulation : SimulationSettings)
  (rules : Option Path)

/-- The simulator of a session, with its effects apart from one another. -/
def installation : Installation ρ (StateM Transcript) where
  categories := settings.categories
  chance := simulation.chance
  answer := answer files (rules.or settings.rulesPath)
  description := (ruleSource (Session.ofFiles files vars seed home) settings rules).description
  fetching := pure ()
  record event := (LogRecord.ofEvent event).forM (logged threshold)
  log := logged threshold
  rest := pure ()

theorem lift_pure {α : Type} (value : α) :
    (StateT.lift (pure value : StateM Transcript α) : StateT ρ (StateM Transcript) α) =
      pure value :=
  rfl

theorem logger_eq : logger (Session.ofFiles files vars seed home) threshold =
    fun record => StateT.lift (logged threshold record) := by
  funext record
  rw [logger, logged]
  split
  · rfl
  · rfl

theorem ruleSource_fetch :
    (ruleSource (Session.ofFiles files vars seed home) settings rules).fetch =
      modifyGet (answer files (rules.or settings.rulesPath)) := by
  rw [ruleSource]
  cases rules.or settings.rulesPath with
  | none => rfl
  | some path => rfl

theorem simulator_eq :
    simulator (Session.ofFiles files vars seed home) settings
        (logger (Session.ofFiles files vars seed home) threshold) simulation rules =
      (installation files vars seed home settings threshold simulation rules).simulator := by
  have fetch : (do
      StateT.lift (pure ())
      modifyGet (answer files (rules.or settings.rulesPath)) : StateT ρ (StateM Transcript) _) =
        (ruleSource (Session.ofFiles files vars seed home) settings rules).fetch := by
    rw [ruleSource_fetch, lift_pure, pure_bind]
  have sink : Sink.logging (fun record => StateT.lift (logged threshold record)) =
      (⟨fun event => StateT.lift ((LogRecord.ofEvent event).forM (logged threshold))⟩ :
        Sink (StateT ρ (StateM Transcript))) := by
    rw [Sink.logging]
    congr 1
    funext event
    apply StateT.ext
    intro state
    exact Installation.run_forM_lift _ _ state
  have rest : (if simulation.tickMs = 0 then pure ()
      else (Session.ofFiles files vars seed home).sleep simulation.tickMs.toNat) =
        StateT.lift (pure ()) := by
    split
    · rfl
    · rfl
  rw [simulator, rest, logger_eq, buildEngine, sink, Installation.simulator, installation, fetch]

end Session

/-! ## What is printed -/

/-- Whatever was written before, a program comes to a value and prints some lines. -/
def Prints {α : Type} (program : StateM Transcript α) (lines : List String) (value : α) : Prop :=
  ∀ transcript, (program.run transcript).1 = value ∧
    (program.run transcript).2.output = transcript.output ++ lines

namespace Prints

variable {α β : Type} {program : StateM Transcript α} {next : α → StateM Transcript β}
  {lines more : List String} {value : α} {final : β}

theorem pure (value : α) : Prints (pure value) [] value :=
  fun _ => ⟨rfl, (List.append_nil _).symm⟩

theorem bind (first : Prints program lines value) (second : Prints (next value) more final) :
    Prints (program >>= next) (lines ++ more) final := by
  intro transcript
  obtain ⟨came, printed⟩ := first transcript
  obtain ⟨result, also⟩ := second (program.run transcript).2
  rw [← came] at result also
  refine ⟨result, also.trans ?_⟩
  rw [printed, List.append_assoc]

/-- A program that prints nothing before another one. -/
theorem silent_bind (first : Prints program [] value) (second : Prints (next value) more final) :
    Prints (program >>= next) more final :=
  first.bind second

/-- A program that prints nothing behind another one. -/
theorem bind_silent (first : Prints program lines value) (second : Prints (next value) [] final) :
    Prints (program >>= next) lines final := by
  have whole := first.bind second
  rwa [List.append_nil] at whole

theorem forM {items : List β} {action : β → StateM Transcript Unit} {lines : β → List String}
    (each : ∀ item, Prints (action item) (lines item) ()) :
    Prints (forM items action) (items.flatMap lines) () := by
  induction items with
  | nil => exact .pure ()
  | cons item rest ih =>
    rw [List.forM_cons, List.flatMap_cons]
    exact (each item).bind ih

/-- Programs of which each prints nothing. -/
theorem forM_silent (items : List β) {action : β → StateM Transcript Unit}
    (each : ∀ item, Prints (action item) [] ()) : Prints (items.forM action) [] () := by
  have silent : Prints (items.forM action) (items.flatMap fun _ => []) () := forM each
  rwa [List.flatMap_eq_nil_iff.mpr fun _ _ => rfl] at silent

/-- A line before all others. -/
theorem line_bind {text : String} {next : Unit → StateM Transcript β}
    (second : Prints (next ()) more final) :
    Prints ((modify fun transcript : Transcript =>
      { transcript with output := transcript.output ++ [text] }) >>= next) (text :: more) final :=
  bind (fun _ => ⟨rfl, rfl⟩ : Prints _ [text] ()) second

theorem logged (threshold : LogRecord.Level) (record : LogRecord) :
    Prints (logged threshold record) [] () := by
  rw [Cli.logged]
  split
  · exact fun _ => ⟨rfl, (List.append_nil _).symm⟩
  · exact .pure ()

end Prints

/-- The lines of some reports, numbered from one on. -/
def tickLines (hours : UInt32) (reports : List Report) : List String :=
  reports.mapIdx fun index report => tickLine (Int32.ofNat (index + 1)) hours report

/-- Who prints a line for every report, and remembers the last number. -/
def numbering (hours : UInt32) : Visitor Int32 (StateM Transcript) where
  tell number report := modify fun transcript =>
    { transcript with output := transcript.output ++ [tickLine (number + 1) hours report] }
  visit number _ := (number + 1, .goOn)

theorem remembered_numbering (hours : UInt32) (number : Int32) (reports : List Report) :
    (numbering hours).remembered number reports = number + Int32.ofNat reports.length := by
  induction reports generalizing number with
  | nil => exact (Int32.add_zero number).symm
  | cons report rest ih =>
    rw [Visitor.remembered_cons, ih, List.length_cons, Nat.add_comm, Int32.ofNat_add,
      ← Int32.add_assoc]
    rfl

section Session

variable {ρ : Type} (files : Files (StateM ρ)) (vars : Variables) (seed : UInt64)
  (home : Option Path) (settings : Settings) (threshold : LogRecord.Level)
  (simulation : SimulationSettings) (rules : Option Path)

/-- Apart from the lines of the visitor, nothing is printed in an hour. -/
theorem prints_told (state : Environment × ρ) :
    let installation := installation files vars seed home settings threshold simulation rules
    Prints (installation.told state) [] () := by
  intro installation
  have record : ∀ event, Prints ((LogRecord.ofEvent event).forM (logged threshold)) [] () :=
    fun event => .forM_silent _ (.logged threshold)
  rw [Installation.told]
  refine (record _).silent_bind (.silent_bind (.pure ()) ?_)
  split
  · exact .pure ()
  · exact .silent_bind (.forM_silent _ record) (.logged threshold _)

/-- The lines of an hour: one if it has a report, under the number of reports so far. -/
def hourLines {m : Type → Type} (installation : Installation ρ m) (hours : UInt32)
    (state : Environment × ρ) (index : Nat) : List String :=
  match installation.result state index with
  | .error _ => []
  | .ok report =>
    [tickLine (Int32.ofNat ((installation.reports state index).length + 1)) hours report]

/-- The lines of the hours one after the other are the numbered lines of their reports. -/
theorem flatMap_hourLines {m : Type → Type} (installation : Installation ρ m) (hours : UInt32)
    (state : Environment × ρ) (ticks : Nat) :
    (List.range ticks).flatMap (hourLines installation hours state) =
      tickLines hours (installation.reports state ticks) := by
  induction ticks with
  | zero => rfl
  | succ ticks ih =>
    -- One more hour adds at most one line, behind those of the reports before it.
    rw [List.range_succ, List.flatMap_append, List.flatMap_singleton, ih, tickLines, tickLines,
      installation.reports_add state ticks 1]
    have next : installation.reports (installation.after state ticks) 1 =
        (installation.result state ticks).toOption.toList := by
      have same : installation.result (installation.after state ticks) 0 =
        installation.result state ticks := rfl
      simp only [Installation.reports, List.range_one, List.filterMap_cons, List.filterMap_nil,
        same]
      cases installation.result state ticks <;> rfl
    rw [next, hourLines]
    cases installation.result state ticks with
    | error failure => simp [Except.toOption]
    | ok report => simp [Except.toOption, List.mapIdx_append]

theorem prints_performed (hours : UInt32) (state : Environment × ρ) (ticks index : Nat) :
    let installation := installation files vars seed home settings threshold simulation rules
    Prints (installation.performed (numbering hours) 0 state ticks index)
      (hourLines installation hours state index) () := by
  intro installation
  rw [Installation.performed, hourLines]
  refine .silent_bind (prints_told files vars seed home settings threshold simulation rules _) ?_
  cases installation.result state index with
  | error failure => exact .pure ()
  | ok report =>
    have pause : Prints (installation.pause index ticks) [] () := by
      rw [Installation.pause]
      split
      · exact .pure ()
      · exact .pure ()
    dsimp only
    rw [remembered_numbering, Int32.zero_add, Int32.ofNat_add]
    exact .line_bind pause

theorem prints_account (hours : UInt32) (state : Environment × ρ) (ticks : Nat) :
    let installation := installation files vars seed home settings threshold simulation rules
    Prints (installation.account (numbering hours) 0 state hours.toNat ticks)
      (tickLines hours (installation.reports state ticks))
      (⟨installation.counted state ticks,
        (numbering hours).remembered 0 (installation.reports state ticks),
        (installation.after state ticks).1⟩, (installation.after state ticks).2) := by
  intro installation
  rw [Installation.account, ← flatMap_hourLines]
  refine .silent_bind (.logged threshold _) ?_
  have each :=
    prints_performed files vars seed home settings threshold simulation rules hours state ticks
  exact (Prints.forM each).bind_silent (.silent_bind (.forM_silent _ (.logged threshold)) (.pure _))

/-- A command that simulates prints its header and the numbered lines of the reports of its hours,
up to the first that fails. -/
theorem prints_runSimulate (state : ρ) :
    let host := Session.ofFiles files vars seed home
    let installation := installation files vars seed home settings threshold simulation rules
    let start : Environment × ρ := (.start installation.climate simulation.startHour.toNat
      (simulation.seed.getD seed), state)
    ∃ ticks, IsLeast (installation.endings (numbering simulation.hours) 0 start
        simulation.hours.toNat) ticks ∧
      Prints ((runSimulate host settings (logger host threshold) simulation rules).run.run state)
        (headerLine simulation.hours ::
          tickLines simulation.hours (installation.reports start ticks))
        (ended (installation.counted start ticks), (installation.after start ticks).2) := by
  intro host installation start
  obtain ⟨ticks, least, equal⟩ :=
    installation.run_runWith (numbering simulation.hours) simulation.hours.toNat 0 start
  refine ⟨ticks, least, ?_⟩
  have chosen : (host.seed simulation.seed).run state =
      pure (simulation.seed.getD seed, state) := by
    cases simulation.seed with
    | none => rfl
    | some seed => rfl
  have account := prints_account files vars seed home settings threshold simulation rules
    simulation.hours start ticks
  have printed : (host.print (headerLine simulation.hours)).run state = (do
      modify fun transcript : Transcript =>
        { transcript with output := transcript.output ++ [headerLine simulation.hours] }
      return ((), state)) := rfl
  have same : simulator host settings (logger host threshold) simulation rules =
      installation.simulator :=
    simulator_eq files vars seed home settings threshold simulation rules
  have visited : host.visit simulation.hours = (numbering simulation.hours).action := rfl
  have ran : (installation.simulator.runWith (numbering simulation.hours).action
      simulation.hours.toNat 0 (.start installation.simulator.climate simulation.startHour.toNat
        (simulation.seed.getD seed))).run state =
      installation.account (numbering simulation.hours) 0 start simulation.hours.toNat ticks :=
    equal
  rw [run_runSimulate]
  simp only [StateT.run_bind, printed, chosen, pure_bind, bind_assoc, same, visited, ran]
  exact .line_bind (account.bind_silent (.pure _))

/-- The answer to a fetch of the rules, counted from zero. -/
def delivery (path : Option Path) (state : ρ) (index : Nat) : Except Failure (List Rule) :=
  (answer files path ((fun state => (answer files path state).2)^[index] state)).1

/-- Where rules are delivered, an hour has a report. -/
theorem result_eq (state : Environment × ρ) (index : Nat) :
    let installation := installation files vars seed home settings threshold simulation rules
    installation.result state index =
      (delivery files (rules.or settings.rulesPath) state.2 index).map
        (installation.report ((Environment.next installation.climate)^[index] state.1)) := by
  intro installation
  rw [Installation.result, Installation.after_eq]
  rfl

/-- Where rules are delivered for all its hours, a command that simulates prints the numbered lines
of as many reports. -/
theorem prints_delivered (state : ρ)
    (delivers : ∀ index < simulation.hours.toNat,
      (delivery files (rules.or settings.rulesPath) state index).isOk = true) :
    let host := Session.ofFiles files vars seed home
    ∃ reports later, reports.length = simulation.hours.toNat ∧
      Prints ((runSimulate host settings (logger host threshold) simulation rules).run.run state)
        (headerLine simulation.hours :: tickLines simulation.hours reports)
        (.ok .success, later) := by
  intro host
  obtain ⟨ticks, least, prints⟩ :=
    prints_runSimulate files vars seed home settings threshold simulation rules state
  set installation := installation files vars seed home settings threshold simulation rules
  set start : Environment × ρ := (.start installation.climate simulation.startHour.toNat
    (simulation.seed.getD seed), state)
  have succeed : ∀ index < simulation.hours.toNat,
      ∃ report, installation.result start index = .ok report := by
    intro index below
    have delivered := delivers index below
    rw [result_eq files vars seed home settings threshold simulation rules start index]
    cases found : delivery files (rules.or settings.rulesPath) state index with
    | error failure =>
      rw [found] at delivered
      cases delivered
    | ok rules => exact ⟨_, rfl⟩
  have all : ∀ index < simulation.hours.toNat, (installation.result start index).isOk = true := by
    intro index below
    obtain ⟨report, found⟩ := succeed index below
    rw [found]
    rfl
  have whole := installation.eq_hours_of_succeed (fun _ _ => rfl) least all
  rw [whole, installation.counted_of_succeed all] at prints
  exact ⟨_, _, installation.length_reports succeed, prints⟩

end Session

end Lamplight.Cli
