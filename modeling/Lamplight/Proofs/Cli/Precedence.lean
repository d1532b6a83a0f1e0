import Lamplight.Proofs.Cli.Launching
import Lamplight.Proofs.Toml.Document

/-!
# Which settings a simulation uses

Four settings of a simulation pass through layers: what the arguments give goes before a variable, a
variable before the document of the configuration, and the document before what is standard.  All
else comes from the document or is standard.  A run is a function of the settings that come out of
this, and so are its lines.  Main statement: `Launch.effective_settings_decide`.
-/

namespace Lamplight

/-! ## The settings of a document -/

namespace Settings

namespace Section

/-- A section within a document; one that is not there has no settings. -/
def part (document : Section) (name : String) (position : Nat) : Section :=
  ((document.value? name position).bind ofValue?).getD (.named [])

/-- What a section says about a setting. -/
def setting? {α : Type} (parts : Section) (name : String) (position : Nat)
    (read? : Toml.Value → Option α) : Option α :=
  (parts.value? name position).bind read?

variable {α : Type} {parts : Section} {name : String} {position : Nat} {standard image : α}

/-- A setting that is read is what its section says, else it is standard. -/
theorem eq_of_read {read? : Toml.Value → Option α}
    (read : parts.read name position read? standard = .ok image) :
    image = (parts.setting? name position read?).getD standard := by
  rw [Section.read] at read
  rw [setting?]
  split at read
  · next absent =>
    cases read
    rw [absent]
    rfl
  · next value present =>
    rw [present, Option.bind_some]
    split at read
    · next found =>
      cases read
      rw [found]
      rfl
    · cases read

/-- A section is read as one without settings where there is none. -/
theorem read_part_of_readSection {readPart : Section → Except ReadFault α}
    (empty : readPart (.named []) = .ok standard)
    (read : parts.readSection name position readPart standard = .ok image) :
    readPart (parts.part name position) = .ok image := by
  rw [readSection] at read
  rw [part]
  split at read
  · next absent =>
    rw [absent]
    exact empty.trans read
  · next value present =>
    rw [present, Option.bind_some]
    split at read
    · next inner found =>
      rw [found]
      exact read
    · cases read

end Section

/-- The settings of the simulator that a document spells. -/
def simulationOf (parts : Section) : SimulationSettings where
  startHour := (parts.setting? "start_hour" 0 word32?).getD SimulationSettings.standard.startHour
  hours := (parts.setting? "hours" 1 word32?).getD SimulationSettings.standard.hours
  tickMs := (parts.setting? "tick_ms" 2 word64?).getD SimulationSettings.standard.tickMs
  chance := (parts.setting? "weather_change_chance" 3 number?).getD
    SimulationSettings.standard.chance
  seed := parts.setting? "seed" 4 word64?

/-- The categories that a document spells. -/
def categoriesOf (parts : Section) : Categories where
  weather := (parts.setting? "weather" 0 texts?).getD Categories.standard.weather
  light := (parts.setting? "light" 1 triangles?).getD Categories.standard.light
  time := (parts.setting? "time" 2 triangles?).getD Categories.standard.time

/-- A setting without a standard value is what its section says. -/
theorem Section.eq_of_read_option {α : Type} {parts : Section} {name : String} {position : Nat}
    {read? : Toml.Value → Option α} {image : Option α}
    (read : parts.read name position (fun value => (read? value).map some) none = .ok image) :
    image = parts.setting? name position read? := by
  rw [eq_of_read read, setting?, setting?]
  cases parts.value? name position with
  | none => rfl
  | some value =>
    rw [Option.bind_some, Option.bind_some]
    cases read? value <;> rfl

theorem eq_simulationOf {parts : Section} {settings : SimulationSettings}
    (read : readSimulation parts = .ok settings) : settings = simulationOf parts := by
  rw [readSimulation] at read
  obtain ⟨startHour, startRead, read⟩ := bind_eq_ok_iff.mp read
  obtain ⟨hours, hoursRead, read⟩ := bind_eq_ok_iff.mp read
  obtain ⟨tickMs, tickRead, read⟩ := bind_eq_ok_iff.mp read
  obtain ⟨chance, chanceRead, read⟩ := bind_eq_ok_iff.mp read
  obtain ⟨seed, seedRead, read⟩ := bind_eq_ok_iff.mp read
  cases read
  rw [simulationOf, ← Section.eq_of_read startRead, ← Section.eq_of_read hoursRead,
    ← Section.eq_of_read tickRead, ← Section.eq_of_read chanceRead,
    ← Section.eq_of_read_option seedRead]

theorem eq_categoriesOf {parts : Section} {categories : Categories}
    (read : readCategories parts = .ok categories) : categories = categoriesOf parts := by
  rw [readCategories] at read
  obtain ⟨weather, weatherRead, read⟩ := bind_eq_ok_iff.mp read
  obtain ⟨light, lightRead, read⟩ := bind_eq_ok_iff.mp read
  obtain ⟨time, timeRead, read⟩ := bind_eq_ok_iff.mp read
  cases read
  rw [categoriesOf, ← Section.eq_of_read weatherRead, ← Section.eq_of_read lightRead,
    ← Section.eq_of_read timeRead]

theorem eq_path_of_readRulesPath {parts : Section} {path : Option Path}
    (read : readRulesPath parts = .ok path) : path = parts.setting? "path" 0 path? :=
  Section.eq_of_read_option read

/-- What is read from a document, apart from how much is logged. -/
theorem eq_of_ofSection {document : Section} {settings : Settings}
    (read : ofSection document = .ok settings) :
    settings.categories = categoriesOf (document.part "fuzzy" 1) ∧
      settings.rulesPath = (document.part "rules" 2).setting? "path" 0 path? ∧
      settings.simulation = simulationOf (document.part "simulation" 3) := by
  rw [ofSection] at read
  obtain ⟨verbosity, -, read⟩ := bind_eq_ok_iff.mp read
  obtain ⟨categories, categoriesRead, read⟩ := bind_eq_ok_iff.mp read
  obtain ⟨rulesPath, rulesRead, read⟩ := bind_eq_ok_iff.mp read
  obtain ⟨simulation, simulationRead, read⟩ := bind_eq_ok_iff.mp read
  cases read
  exact ⟨eq_categoriesOf (Section.read_part_of_readSection rfl categoriesRead),
    eq_path_of_readRulesPath (Section.read_part_of_readSection rfl rulesRead),
    eq_simulationOf (Section.read_part_of_readSection rfl simulationRead)⟩

end Settings

/-! ## Plans -/

namespace Cli

/-- What the arguments of a command give to a simulation. -/
structure Flags where
  hours : Option UInt32
  seed : Option UInt64
  tickMs : Option UInt64
  rules : Option Path

/-- The settings that a simulation uses, with the file of its rules. -/
structure Plan where
  categories : Categories
  simulation : SimulationSettings
  rules : Option Path

namespace Plan

/-- The settings that come out of the layers: what is given goes before variables, and these before
the document.  A variable whose value cannot be used counts as absent. -/
def ofLayers (flags : Flags) (vars : Variables) (document : Settings.Section) : Plan :=
  let simulation := document.part "simulation" 3
  let standard := SimulationSettings.standard
  { categories := Settings.categoriesOf (document.part "fuzzy" 1)
    simulation := {
      startHour := (simulation.setting? "start_hour" 0 Settings.word32?).getD standard.startHour
      hours := ((flags.hours.or (vars.value? .hours Decimal.readWord32?)).or
        (simulation.setting? "hours" 1 Settings.word32?)).getD standard.hours
      tickMs := ((flags.tickMs.or (vars.value? .tickMs Decimal.readWord64?)).or
        (simulation.setting? "tick_ms" 2 Settings.word64?)).getD standard.tickMs
      chance := (simulation.setting? "weather_change_chance" 3 Settings.number?).getD
        standard.chance
      seed := (flags.seed.or (vars.value? .seed Decimal.readWord64?)).or
        (simulation.setting? "seed" 4 Settings.word64?) }
    rules := (flags.rules.or (vars.value? .rulesPath Path.ofText?)).or
      ((document.part "rules" 2).setting? "path" 0 Settings.path?) }

/-- The settings that a command uses with a configuration. -/
def ofSettings (flags : Flags) (settings : Settings) : Plan where
  categories := settings.categories
  simulation := effectiveSimulation settings flags.hours flags.seed flags.tickMs
  rules := flags.rules.or settings.rulesPath

/-- The layers come to the same in the order in which they are put on. -/
theorem ofSettings_overridden {document : Settings.Section} {read : Settings}
    (decoded : Settings.ofSection document = .ok read) (flags : Flags) (vars : Variables) :
    ofSettings flags (read.overridden vars) = ofLayers flags vars document := by
  obtain ⟨categories, rules, simulation⟩ := Settings.eq_of_ofSection decoded
  simp only [ofSettings, ofLayers, Settings.overridden, effectiveSimulation, categories, rules,
    simulation, Settings.simulationOf, Option.getD_or, Option.or_assoc]

/-- The run of a plan.  The log apart, nothing of the configuration is used but the plan. -/
def run {m : Type → Type} [Monad m] (plan : Plan) (host : Host m) (log : Logger m) :
    Action m ExitStatus :=
  runSimulate host
    { Settings.standard with categories := plan.categories, rulesPath := plan.rules } log
    plan.simulation none

theorem runSimulate_eq {m : Type → Type} [Monad m] (flags : Flags) (settings : Settings)
    (host : Host m) (log : Logger m) :
    runSimulate host settings log
        (effectiveSimulation settings flags.hours flags.seed flags.tickMs) flags.rules =
      (ofSettings flags settings).run host log := by
  -- The configuration goes into a run by its engine alone.
  have engine : buildEngine host settings log flags.rules =
      buildEngine host { Settings.standard with
        categories := settings.categories
        rulesPath := flags.rules.or settings.rulesPath } log none := by
    simp only [buildEngine, ruleSource, Option.none_or]
  rw [run, runSimulate, runSimulate, engine]
  rfl

/-! ## What a plan prints -/

/-- What the file of the rules answers. -/
def answer (plan : Plan) (tree : FileTree) : Except Failure (List Rule) :=
  match plan.rules with
  | none => .ok (Rule.byPriority Rule.bundled)
  | some path => RuleSource.ofContent path (.ofPath path) (tree.readText path)

/-- The report of an hour, counted from zero, with some rules. -/
def report (plan : Plan) (seed : UInt64) (rules : List Rule) (index : Nat) : Report :=
  let climate : Climate := ⟨plan.categories.weather, plan.simulation.chance⟩
  let start := Environment.start climate plan.simulation.startHour.toNat seed
  let observation := ((Environment.next climate)^[index] start).observed climate
  .ofOutcome observation (.ofRules plan.categories observation.sample rules)

/-- The lines of a plan: the header, and one for every hour if there are rules. -/
def lines (plan : Plan) (seed : UInt64) (answer : Except Failure (List Rule)) : List String :=
  headerLine plan.simulation.hours :: match answer with
    | .error _ => []
    | .ok rules => tickLines plan.simulation.hours
      ((List.range plan.simulation.hours.toNat).map (plan.report seed rules))

/-- How a plan ends: without rules, only a run of no hours succeeds. -/
def result (plan : Plan) : Except Failure (List Rule) → Except CommandError ExitStatus
  | .error failure =>
    if plan.simulation.hours = 0 then .ok .success else .error (.simulation failure)
  | .ok _ => .ok .success

theorem ended_of_failure (plan : Plan) (failure : Failure) :
    ended (if plan.simulation.hours.toNat = 0 then .ok 0 else .error failure) =
      plan.result (.error failure) := by
  have zero : plan.simulation.hours.toNat = 0 ↔ plan.simulation.hours = 0 := by
    rw [← UInt32.toNat_inj]
    rfl
  simp only [result, zero]
  split <;> rfl

section Tree

variable (plan : Plan) (tree : FileTree)

theorem answer_ofTree : Cli.answer (.ofTree (StateM FileTree)) plan.rules tree =
    (plan.answer tree, tree) := by
  rw [answer]
  cases plan.rules with
  | none => rfl
  | some path =>
    have read : ((Files.ofTree (StateM FileTree)).readText path).run tree =
        pure (tree.readText path, tree) := (Files.ofTree_shows tree).readText path
    rw [Cli.answer, read]
    rfl

/-- Trees that hold the same under the file of the rules answer the same. -/
theorem answer_congr {other : FileTree}
    (same : ∀ path, plan.rules = some path → other.readText path = tree.readText path) :
    plan.answer other = plan.answer tree := by
  rw [answer, answer]
  cases found : plan.rules with
  | none => rfl
  | some path =>
    dsimp only
    rw [same path found]

theorem iterate_answer (index : Nat) :
    (fun tree => (Cli.answer (.ofTree (StateM FileTree)) plan.rules tree).2)^[index] tree = tree :=
  Function.iterate_fixed (congrArg Prod.snd (plan.answer_ofTree tree)) index

theorem delivery_ofTree (index : Nat) :
    delivery (.ofTree (StateM FileTree)) plan.rules tree index = plan.answer tree := by
  rw [delivery, iterate_answer, answer_ofTree]

/-- What a run of a plan prints and how it ends. -/
theorem prints_run (vars : Variables) (fresh : UInt64) (home : Option Path)
    (threshold : LogRecord.Level) :
    let host := Session.host vars fresh home
    Prints ((plan.run host (logger host threshold)).run.run tree)
      (plan.lines (plan.simulation.seed.getD fresh) (plan.answer tree))
      (plan.result (plan.answer tree), tree) := by
  intro host
  let settings : Settings :=
    { Settings.standard with categories := plan.categories, rulesPath := plan.rules }
  obtain ⟨ticks, least, prints⟩ := prints_runSimulate (.ofTree (StateM FileTree)) vars fresh home
    settings threshold plan.simulation none tree
  have result := result_eq (.ofTree (StateM FileTree)) vars fresh home settings threshold
    plan.simulation none
  set installation := installation (.ofTree (StateM FileTree)) vars fresh home settings threshold
    plan.simulation none
  set start : Environment × FileTree := (.start installation.climate
    plan.simulation.startHour.toNat (plan.simulation.seed.getD fresh), tree)
  -- Fetching leaves the tree as it is, so every hour is answered the same.
  have later : (installation.after start ticks).2 = tree := by
    rw [installation.after_eq]
    exact plan.iterate_answer tree ticks
  have hour : ∀ index, installation.result start index = (plan.answer tree).map fun rules =>
      plan.report (plan.simulation.seed.getD fresh) rules index := by
    intro index
    rw [result, ← plan.delivery_ofTree tree index]
    rfl
  rw [← Session.host_eq, later] at prints
  cases answered : plan.answer tree with
  | error failure =>
    simp only [answered, Except.map] at hour
    obtain ⟨counted, reports⟩ := installation.failed_of_failures least hour
    rw [counted, reports] at prints
    rw [ended_of_failure] at prints
    exact prints
  | ok rules =>
    simp only [answered, Except.map] at hour
    obtain ⟨counted, reports⟩ := installation.whole_of_reports (fun _ _ => rfl) least hour
    rw [counted, reports] at prints
    rw [lines]
    exact prints

end Tree

end Plan

/-! ## Sessions with a plan -/

/-- A session that is to simulate, and for which a configuration is loaded. -/
structure Launch where
  tree : FileTree
  vars : Variables
  /-- The seed of runs that have none. -/
  fresh : UInt64
  /-- The home directory of the account, if it has one. -/
  home : Option Path
  arguments : List String
  invocation : Invocation
  flags : Flags
  settings : Settings
  read : Invocation.read arguments = .ok invocation
  command : invocation.command = .simulate flags.hours flags.seed flags.tickMs flags.rules
  loaded : (loadSettings (Session.host vars fresh home) invocation.config).run.run tree =
    pure (.ok settings, tree)

namespace Launch

/-- What is left of the session. -/
def ending (launch : Launch) : Ending :=
  runSession launch.tree launch.vars launch.fresh launch.arguments launch.home

/-- The settings in use. -/
def plan (launch : Launch) : Plan := .ofSettings launch.flags launch.settings

/-- The least important records that are logged. -/
def threshold (launch : Launch) : LogRecord.Level :=
  (launch.settings.verbosity.adjust launch.invocation.verbose launch.invocation.quiet).threshold

theorem runLoaded_eq (launch : Launch) {m : Type → Type} [Monad m] (host : Host m) :
    runLoaded host launch.invocation launch.settings =
      launch.plan.run host (logger host launch.threshold) := by
  rw [runLoaded_of_simulate host launch.settings launch.command]
  exact Plan.runSimulate_eq launch.flags launch.settings host _

theorem plan_eq_ofLayers (launch : Launch) :
    ∃ document,
      document? launch.tree launch.vars launch.home launch.invocation.config = some document ∧
      launch.plan = .ofLayers launch.flags launch.vars document := by
  obtain ⟨document, read, found, decoded, overridden, -⟩ :=
    (loaded_iff launch.fresh).mp launch.loaded
  refine ⟨document, found, ?_⟩
  rw [plan, ← overridden]
  exact Plan.ofSettings_overridden decoded launch.flags launch.vars

/-- The seed of a run: a new one if none is given. -/
def seed (launch : Launch) : UInt64 := launch.plan.simulation.seed.getD launch.fresh

theorem ending_eq (launch : Launch) :
    launch.ending.transcript.output =
      launch.plan.lines launch.seed (launch.plan.answer launch.tree) ∧
    launch.ending.status = statusOf (launch.plan.result (launch.plan.answer launch.tree)) := by
  have prints : Prints ((runLoaded (Session.host launch.vars launch.fresh launch.home)
      launch.invocation launch.settings).run.run launch.tree)
      (launch.plan.lines launch.seed (launch.plan.answer launch.tree))
      (launch.plan.result (launch.plan.answer launch.tree), launch.tree) := by
    rw [runLoaded_eq]
    exact launch.plan.prints_run launch.tree launch.vars launch.fresh launch.home
      launch.threshold
  exact runSession_of_prints launch.read launch.command launch.loaded prints

/-- Whatever the arguments, the variables and the document of the configuration are, if a
configuration is loaded at all: the settings in use come out of the layers, and nothing else but the
threshold of the log goes into the run.  Its lines and its status are a function of these settings,
the seed and what the file of the rules holds.  So two sessions with the same settings, however they
come by them, print the same if a seed is given. -/
theorem effective_settings_decide (launch : Launch) :
    (∃ document,
      document? launch.tree launch.vars launch.home launch.invocation.config = some document ∧
      launch.plan = .ofLayers launch.flags launch.vars document) ∧
    (∀ {m : Type → Type} [Monad m] (host : Host m),
      runLoaded host launch.invocation launch.settings =
        launch.plan.run host (logger host launch.threshold)) ∧
    (launch.ending.transcript.output =
      launch.plan.lines launch.seed (launch.plan.answer launch.tree) ∧
    launch.ending.status = statusOf (launch.plan.result (launch.plan.answer launch.tree))) ∧
    ∀ other : Launch, other.plan = launch.plan → launch.plan.simulation.seed.isSome = true →
      (∀ path, launch.plan.rules = some path →
        other.tree.readText path = launch.tree.readText path) →
      other.ending.transcript.output = launch.ending.transcript.output ∧
        other.ending.status = launch.ending.status := by
  refine ⟨launch.plan_eq_ofLayers, launch.runLoaded_eq, launch.ending_eq, ?_⟩
  intro other same given files
  obtain ⟨seed, given⟩ := Option.isSome_iff_exists.mp given
  have seeds : other.seed = launch.seed := by
    rw [Launch.seed, Launch.seed, same, given, Option.getD_some, Option.getD_some]
  have answers := launch.plan.answer_congr launch.tree files
  rw [other.ending_eq.1, other.ending_eq.2, launch.ending_eq.1, launch.ending_eq.2, same, seeds,
    answers]
  exact ⟨rfl, rfl⟩

/-! ## Two sessions with the same plan -/

/-- A file of rules that holds none. -/
def ruled : FileTree := (FileTree.bare ["home"]).placeFile ⟨"rules.json"⟩ "[]".toUTF8

/-- A configuration with a seed that is replaced. -/
def document : String := "[simulation]\nhours = 2\nseed = 9\n"

/-- The rules and the configuration. -/
def configured : FileTree := ruled.placeFile ⟨"./fuzzylight.toml"⟩ document.toUTF8

/-- Variables for all settings; that of the hours cannot be used. -/
def chosen : Variables := fun name =>
  [("FUZZYLIGHT_RULES", "rules.json"), ("FUZZYLIGHT_SIM_HOURS", "many"),
    ("FUZZYLIGHT_SIM_SEED", "7"), ("FUZZYLIGHT_TICK_MS", "0")].lookup name

/-- The configuration of the document with the settings that the variables replace. -/
def settled : Settings :=
  { Settings.standard with
    rulesPath := some ⟨"rules.json"⟩, simulation := ⟨18, 2, 0, 0.2, some 7⟩ }

/-- The entries of the table of that configuration. -/
def documentLeaves : List (String × Toml.Value) := [("hours", .integer 2), ("seed", .integer 9)]

theorem read_document : Toml.read document = .ok [("simulation", .table documentLeaves)] := by
  have each : ∀ entry ∈ documentLeaves, Toml.Writable Toml.nestingLimit entry.2 := by
    simp only [documentLeaves, List.forall_mem_cons]
    exact ⟨.integer (by decide) (by decide), .integer (by decide) (by decide),
      List.forall_mem_nil _⟩
  have writable : (⟨["simulation"], documentLeaves⟩ : Toml.Part).Writable :=
    ⟨by decide, by decide, each⟩
  have written : document = Toml.documentText [⟨["simulation"], documentLeaves⟩] := by
    decide +kernel
  rw [written, Toml.read_documentText (List.forall_mem_singleton.mpr writable)]
  rfl

theorem loaded_settled :
    (loadSettings (Session.host chosen 2 (some ⟨"/root"⟩)) none).run.run configured =
      pure (.ok settled, configured) := by
  have present : (Settings.searchPaths chosen (some ⟨"/root"⟩)).find? configured.contains =
      some ⟨"./fuzzylight.toml"⟩ := by decide +kernel
  have text : configured.readText ⟨"./fuzzylight.toml"⟩ = .ok document := by decide +kernel
  have verbosity : chosen.value? .verbosity Verbosity.read? = none := by decide +kernel
  have rules : chosen.value? .rulesPath Path.ofText? = some ⟨"rules.json"⟩ := by decide +kernel
  have hours : chosen.value? .hours Decimal.readWord32? = none := by decide +kernel
  have seed : chosen.value? .seed Decimal.readWord64? = some 7 := by decide +kernel
  have tickMs : chosen.value? .tickMs Decimal.readWord64? = some 0 := by decide +kernel
  refine (loaded_iff 2).mpr ⟨.named [("simulation", .table documentLeaves)],
    { Settings.standard with simulation := ⟨18, 2, 1000, 0.2, some 9⟩ }, ?_, rfl, ?_, ?_⟩
  · rw [document?, present, Option.none_or]
    simp only [text, Except.toOption, Option.bind_some, read_document,
      Option.map_some]
  · rw [Settings.overridden, verbosity, rules, hours, seed, tickMs]
    rfl
  · exact Settings.fault?_eq_none_iff.mp (Option.isNone_iff_eq_none.mp (by decide +kernel))

/-- A session in which all is given by the arguments. -/
def flagged : Launch where
  tree := ruled
  vars _ := none
  fresh := 1
  home := none
  arguments :=
    ["simulate", "--hours", "2", "--seed", "7", "--tick-ms", "0", "--rules", "rules.json"]
  invocation := ⟨none, 0, 0, .simulate (some 2) (some 7) (some 0) (some ⟨"rules.json"⟩)⟩
  flags := ⟨some 2, some 7, some 0, some ⟨"rules.json"⟩⟩
  settings := .standard
  read := by decide +kernel
  command := rfl
  loaded := loaded_standard (by decide +kernel) 1

/-- A session in which nothing is given by the arguments but how much is logged. -/
def layered : Launch where
  tree := configured
  vars := chosen
  fresh := 2
  home := some ⟨"/root"⟩
  arguments := ["-v", "simulate"]
  invocation := ⟨none, 1, 0, .simulate none none none none⟩
  flags := ⟨none, none, none, none⟩
  settings := settled
  read := by decide +kernel
  command := rfl
  loaded := loaded_settled

theorem effective_settings_decide_in_layers :
    layered.plan = flagged.plan ∧ flagged.plan.simulation.seed.isSome = true ∧
      (∀ path, flagged.plan.rules = some path →
        layered.tree.readText path = flagged.tree.readText path) ∧
      layered.ending.transcript.output = flagged.ending.transcript.output ∧
      layered.ending.status = flagged.ending.status := by
  obtain ⟨-, -, -, agree⟩ := effective_settings_decide flagged
  have plans : layered.plan = flagged.plan := rfl
  have files : ∀ path, flagged.plan.rules = some path →
      layered.tree.readText path = flagged.tree.readText path := by
    rintro path ⟨⟩
    decide +kernel
  exact ⟨plans, rfl, files, agree layered plans rfl files⟩

end Launch

end Cli

end Lamplight
