import Lamplight.Cli.Arguments
import Lamplight.Cli.Help
import Lamplight.Engine.Basic
import Lamplight.Json.Writer
import Lamplight.Settings.Store
import Lamplight.Simulation.Basic

/-!
# Running commands

`run` does what the arguments of the program ask for.  Everything it needs from outside is in
a `Host`, so that the same program runs on a real system and on a file tree in memory.
-/

namespace Lamplight.Cli

/-- The surroundings of the program. -/
structure Host (m : Type → Type) where
  files : Files m
  vars : Variables
  /-- The home directory of the account that the program runs under, if it has one. -/
  accountHome : Option Path
  /-- Write a line of output. -/
  print : String → m Unit
  /-- Write a line about something that went wrong or was done. -/
  report : String → m Unit
  /-- Write a log record. -/
  log : Logger m
  /-- Wait for some milliseconds. -/
  sleep : Nat → m Unit
  /-- A seed that nobody chose. -/
  freshSeed : m UInt64

/-- Why a command was given up. -/
inductive CommandError
  /-- No configuration could be loaded. -/
  | noSettings (error : SettingsError)
  /-- The named configuration file could not be loaded. -/
  | settingsFile (path : Path) (error : SettingsError)
  /-- The named configuration file holds values that cannot be used. -/
  | invalidSettings (error : SettingsError)
  | inference (failure : Failure)
  | simulation (failure : Failure)
  | noRules (source : String) (failure : Failure)
  /-- A file that would have been overwritten. -/
  | occupied (path : Path)
  | unwritten (path : Path) (error : AccessError)

namespace CommandError

/-- What was given up, in words. -/
def summary : CommandError → String
  | .noSettings _ => "Failed to load configuration"
  | .settingsFile path _ => s!"Failed to load config: {path.text}"
  | .invalidSettings _ => "Invalid configuration"
  | .inference _ => "Inference failed"
  | .simulation _ => "Simulation stopped"
  | .noRules source _ => s!"Failed to load rules from {source}"
  | .occupied path => s!"Refusing to overwrite existing file: {path.text}"
  | .unwritten path _ => s!"Failed to write config: {path.text}"

/-- Why it was given up, in words. -/
def cause? : CommandError → Option String
  | .noSettings error | .settingsFile _ error | .invalidSettings error => some error.message
  | .inference failure | .simulation failure | .noRules _ failure => some failure.display
  | .occupied _ => none
  | .unwritten _ error => some error.message

/-- The lines that report an error. -/
def lines (error : CommandError) : List String :=
  ("Error: " ++ error.summary) ::
    match error.cause? with
    | none => []
    | some cause => ["", "Caused by:"] ++ (cause.splitOn "\n").map ("    " ++ ·)

end CommandError

/-- How the program ends. -/
inductive ExitStatus
  | success
  | failure
  /-- The arguments make no sense. -/
  | usage
  deriving Repr, DecidableEq

/-- The number of an end. -/
def ExitStatus.code : ExitStatus → UInt32
  | .success => 0
  | .failure => 1
  | .usage => 2

/-- A command in progress: it may be given up. -/
abbrev Action (m : Type → Type) := ExceptT CommandError m

namespace Action

variable {m : Type → Type} [Monad m] [LawfulMonad m] {α β : Type}

/-- Effects of the surroundings never give a command up. -/
theorem run_lift_bind (effect : m α) (next : α → Action m β) :
    ((liftM effect : Action m α) >>= next).run = effect >>= fun value => (next value).run :=
  ExceptT.run_bind_lift effect next

theorem run_forM_lift (items : List α) (effect : α → m Unit) :
    (items.forM fun item => (liftM (effect item) : Action m Unit)).run =
      items.forM effect >>= fun _ => pure (.ok ()) := by
  induction items with
  | nil => simp
  | cons item items ih =>
    rw [List.forM, List.forM, run_lift_bind, bind_assoc]
    exact congrArg _ (funext fun _ => ih)

end Action

variable {m : Type → Type} [Monad m]

/-- The configuration to use: from the named file, or from the first one found. -/
def loadSettings (host : Host m) : Option Path → Action m Settings
  | none => do
    match ← (Settings.load host.files host.vars host.accountHome : m _) with
    | .error error => throw (.noSettings error)
    | .ok settings => return settings
  | some path => do
    match ← (Settings.loadFile host.files path : m _) with
    | .error error => throw (.settingsFile path error)
    | .ok settings =>
      match Settings.prepared host.vars settings with
      | .error error => throw (.invalidSettings error)
      | .ok settings => return settings

/-- The source of the rules: the named file, else the configured one, else the bundled
rules. -/
def ruleSource (host : Host m) (settings : Settings) (path : Option Path) : RuleSource m :=
  match path.or settings.rulesPath with
  | some path => .ofPath host.files path
  | none => .bundled

/-- The log, less what is below a threshold. -/
def logger (host : Host m) (threshold : LogRecord.Level) : Logger m :=
  fun record => if record.level.passes threshold then host.log record else pure ()

/-- The engine of a configuration; it writes to the log. -/
def buildEngine (host : Host m) (settings : Settings) (log : Logger m) (rules : Option Path) :
    Engine m where
  categories := settings.categories
  source := ruleSource host settings rules
  sink := .logging log

/-- Degrees as JSON. -/
def degreesJson (degrees : Degrees) : Json :=
  .ofMembers (degrees.entries.map fun entry => (entry.1, .number entry.2))

/-- A rule as JSON. -/
def ruleJson (rule : Rule) : Json :=
  .ofMembers ([
    ("name", .text rule.name),
    ("description", .text rule.description),
    ("condition", .text rule.condition),
    ("priority", .integer rule.priority),
    ("action_name", .text rule.action)] ++
    rule.intensity.toList.map fun intensity => ("intensity", intensity))

/-- The result of an evaluation as JSON. -/
def outcomeJson (outcome : Outcome) : Json :=
  .ofMembers [
    ("sample", .ofMembers [
      ("time", .number outcome.sample.time),
      ("light", .number outcome.sample.light),
      ("weather", .text outcome.sample.weather)]),
    ("fuzzy", .ofMembers [
      ("light", degreesJson outcome.degrees.light),
      ("time", degreesJson outcome.degrees.time),
      ("weather", degreesJson outcome.degrees.weather)]),
    ("activated", .array (outcome.activated.map ruleJson)),
    ("selected", (outcome.selected.map ruleJson).getD .null)]

/-- The result of an evaluation in lines of text. -/
def outcomeLines (outcome : Outcome) : List String :=
  [s!"light:   {outcome.degrees.light.text}",
    s!"time:    {outcome.degrees.time.text}",
    s!"weather: {outcome.degrees.weather.text}"] ++
  (if outcome.activated.isEmpty then ["No rules activated; keep current state"]
    else "Activated rules:" ::
      outcome.activated.map fun rule => s!"  [{rule.priority}] {rule.name} -> {rule.action}") ++
  outcome.selected.toList.map fun rule => s!"Action: {rule.action} (rule: {rule.name})"

/-- Evaluate one sample. -/
def runEval (host : Host m) (settings : Settings) (log : Logger m) (sample : Sample)
    (rules : Option Path) (json : Bool) : Action m ExitStatus := do
  match ← (buildEngine host settings log rules).evaluate sample with
  | .error failure => throw (.inference failure)
  | .ok outcome =>
    if json then host.print (outcomeJson outcome).pretty
    else (outcomeLines outcome).forM fun line => host.print line
    return .success

/-- The settings of a run of the simulator. -/
def effectiveSimulation (settings : Settings) (hours : Option UInt32)
    (seed tickMs : Option UInt64) : SimulationSettings :=
  { settings.simulation with
    hours := hours.getD settings.simulation.hours
    seed := seed.or settings.simulation.seed
    tickMs := tickMs.getD settings.simulation.tickMs }

/-- The line about one hour.  Its number is a signed word of 32 bits. -/
def tickLine (number : Int32) (hours : UInt32) (report : Report) : String :=
  s!"[{number}/{hours}] {report.text}"

/-- Simulate some hours. -/
def runSimulate (host : Host m) (settings : Settings) (log : Logger m)
    (simulation : SimulationSettings) (rules : Option Path) : Action m ExitStatus := do
  host.print s!"Street light simulation: {simulation.hours} hours"
  let seed ← match simulation.seed with
    | some seed => pure seed
    | none => host.freshSeed
  let simulator : Simulator m := .ofEngine (buildEngine host settings log rules) log
    simulation.chance
    (if simulation.tickMs = 0 then pure () else host.sleep simulation.tickMs.toNat)
  let visit := fun (number : Int32) report => do
    let number := number + 1
    host.print (tickLine number simulation.hours report)
    return (number, Verdict.goOn)
  let run ← simulator.runWith visit simulation.hours.toNat 0
    (.start simulator.climate simulation.startHour.toNat seed)
  match run.ticks with
  | .error failure => throw (.simulation failure)
  | .ok _ => return .success

/-- The line about the check of a rule. -/
def checkLine (rule : Rule) : String :=
  match (Rule.Check.ofRule rule).error with
  | none => s!"  ok   [{rule.priority}] {rule.name}: {rule.condition} -> {rule.action}"
  | some error => s!"  FAIL [{rule.priority}] {rule.name}: {error.message}"

/-- Check the conditions of all rules. -/
def runCheck (host : Host m) (settings : Settings) (path : Option Path) :
    Action m ExitStatus := do
  let source := ruleSource host settings path
  match ← source.fetch with
  | .error failure => throw (.noRules source.description failure)
  | .ok rules =>
    host.print s!"{source.description}: {rules.length} rules"
    rules.forM fun rule => host.print (checkLine rule)
    let malformed := (rules.map Rule.Check.ofRule).countP fun check => !check.isValid
    if 0 < malformed then
      host.report s!"{malformed} malformed condition(s)"
      return .failure
    return .success

/-- Write a sample of a configuration file; a file that is there is left alone. -/
def runInit (host : Host m) : Option Path → Action m ExitStatus
  | none => do
    Settings.sampleLines.forM fun line => host.print line
    return .success
  | some path => do
    if ← host.files.contains path then throw (.occupied path)
    match ← host.files.writeText path Settings.sampleDocument with
    | .error error => throw (.unwritten path error)
    | .ok () =>
      host.report s!"Wrote {path.text}"
      return .success

/-- Do what an invocation asks for. -/
def perform (host : Host m) (invocation : Invocation) : Action m ExitStatus := do
  match invocation.command with
  | .initConfig output => runInit host output
  | command =>
    let settings ← loadSettings host invocation.config
    let verbosity := settings.verbosity.adjust invocation.verbose invocation.quiet
    let log := logger host verbosity.threshold
    match command with
    | .eval sample rules json => runEval host settings log sample rules json
    | .simulate hours seed tickMs rules =>
      runSimulate host settings log (effectiveSimulation settings hours seed tickMs) rules
    | .checkRules rules => runCheck host settings rules
    | .initConfig output => runInit host output

/-- Tell why there is nothing to perform. -/
def runHalt (host : Host m) : Halt → m ExitStatus
  | .help topic => do
    host.print (helpText topic)
    return .success
  | .version => do
    host.print versionLine
    return .success
  | .usage fault => do
    host.report s!"error: {fault.message}"
    return .usage

/-- Run the program on its arguments. -/
def run (host : Host m) (arguments : List String) : m ExitStatus := do
  match Invocation.read arguments with
  | .error halt => runHalt host halt
  | .ok invocation =>
    match ← (perform host invocation).run with
    | .ok status => return status
    | .error error =>
      error.lines.forM host.report
      return .failure

end Lamplight.Cli
