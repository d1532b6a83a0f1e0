import Lamplight.Cli.Session
import Lamplight.Proofs.Membership.Bounds

/-!
# Which configuration is loaded

The first path at which something is decides alone what is loaded: a file that cannot be read or
holds no configuration is an error, and what it holds is only used if it is usable once variables
have replaced settings of it.  So only usable configurations get to an engine or a simulator.
Main statement: `Cli.first_present_decides`.
-/

namespace Lamplight

/-! ## Usable configurations -/

namespace Categories

theorem weatherFaultAfter?_eq_none_iff {earlier weather : List String} :
    weatherFaultAfter? earlier weather = none ↔
      (∀ category ∈ weather, category ≠ "" ∧ category ∉ earlier) ∧ weather.Nodup := by
  induction weather generalizing earlier with
  | nil => simp [weatherFaultAfter?]
  | cons category rest ih =>
    rw [weatherFaultAfter?]
    split
    · next empty => simp [empty]
    · next named =>
      split
      · next known => simp [known]
      · next new =>
        rw [ih, List.forall_mem_cons, List.nodup_cons]
        constructor
        · rintro ⟨each, distinct⟩
          refine ⟨⟨⟨named, new⟩, fun other member => ⟨(each other member).1, fun known => ?_⟩⟩,
            fun again => ?_, distinct⟩
          · exact (each other member).2 (List.mem_append_left _ known)
          · exact (each category again).2 (List.mem_append_right _ (.head _))
        · rintro ⟨⟨-, each⟩, once, distinct⟩
          refine ⟨fun other member => ⟨(each other member).1, fun known => ?_⟩, distinct⟩
          rcases List.mem_append.mp known with earlier | here
          · exact (each other member).2 earlier
          · exact once (List.mem_singleton.mp here ▸ member)

theorem weatherFault?_eq_none_iff {weather : List String} : weatherFault? weather = none ↔
    weather ≠ [] ∧ (∀ category ∈ weather, category ≠ "") ∧ weather.Nodup := by
  rw [weatherFault?]
  split
  · next empty => simp [List.isEmpty_iff.mp empty]
  · next nonempty =>
    rw [List.isEmpty_iff] at nonempty
    simp [weatherFaultAfter?_eq_none_iff, nonempty]

theorem termsFault?_eq_none_iff {channel : Reading} {terms : Catalog Triangle} :
    termsFault? channel terms = none ↔
      terms.entries ≠ [] ∧ ∀ entry ∈ terms.entries, entry.2.fault? = none := by
  rw [termsFault?, Catalog.isEmpty]
  split
  · next empty => simp [List.isEmpty_iff.mp empty]
  · next nonempty =>
    rw [List.isEmpty_iff] at nonempty
    simp [List.findSome?_eq_none_iff, nonempty]

end Categories

namespace Settings

/-- Whether the triangles of a channel are finite and have their points in order, and whether there
is one. -/
def UsableTerms (terms : Catalog Triangle) : Prop :=
  terms.entries ≠ [] ∧ ∀ entry ∈ terms.entries,
    (entry.2.left.isFinite = true ∧ entry.2.peak.isFinite = true ∧ entry.2.right.isFinite = true) ∧
      entry.2.left ≤ entry.2.peak ∧ entry.2.peak ≤ entry.2.right

/-- What a configuration must be like to be used. -/
structure Usable (settings : Settings) : Prop where
  light : UsableTerms settings.categories.light
  time : UsableTerms settings.categories.time
  weather : settings.categories.weather ≠ []
  named : ∀ category ∈ settings.categories.weather, category ≠ ""
  distinct : settings.categories.weather.Nodup
  startHour : settings.simulation.startHour ≤ 23
  chance : 0 ≤ settings.simulation.chance ∧ settings.simulation.chance ≤ 1

theorem usableTerms_iff {channel : Reading} {terms : Catalog Triangle} :
    Categories.termsFault? channel terms = none ↔ UsableTerms terms := by
  rw [Categories.termsFault?_eq_none_iff, UsableTerms]
  simp only [Triangle.fault?_eq_none_iff]

theorem simulationFault?_eq_none_iff {settings : SimulationSettings} :
    simulationFault? settings = none ↔
      settings.startHour ≤ 23 ∧ 0 ≤ settings.chance ∧ settings.chance ≤ 1 := by
  rw [simulationFault?]
  split
  · next late => simp [UInt32.not_le.mpr late]
  · next soon =>
    simp [UInt32.not_lt.mp soon]

/-- A configuration can be used when no fault is found in it. -/
theorem fault?_eq_none_iff {settings : Settings} : settings.fault? = none ↔ settings.Usable := by
  rw [fault?, Option.or_eq_none_iff, Option.map_eq_none_iff, Categories.fault?,
    Option.or_eq_none_iff, Option.or_eq_none_iff, usableTerms_iff, usableTerms_iff,
    Categories.weatherFault?_eq_none_iff, simulationFault?_eq_none_iff]
  constructor
  · rintro ⟨⟨light, time, weather, named, distinct⟩, startHour, chance⟩
    exact ⟨light, time, weather, named, distinct, startHour, chance⟩
  · rintro ⟨light, time, weather, named, distinct, startHour, chance⟩
    exact ⟨⟨light, time, weather, named, distinct⟩, startHour, chance⟩

end Settings

/-! ## Files in a state -/

/-- What files show in a state: whether something is at a path, and the text that is read there.
Looking at them leaves the state as it is. -/
structure Files.Shows {σ : Type} {n : Type → Type} [Monad n] (files : Files (StateT σ n))
    (state : σ) (present : Path → Bool) (answer : Path → Except AccessError String) : Prop where
  contains : ∀ path, (files.contains path).run state = pure (present path, state)
  readText : ∀ path, (files.readText path).run state = pure (answer path, state)

section States

variable {σ : Type} {n : Type → Type} [Monad n] [LawfulMonad n]

theorem Files.ofTree_shows (tree : FileTree) :
    (Files.ofTree (StateT FileTree n)).Shows tree tree.contains tree.readText := by
  constructor <;> intro path <;> simp [Files.ofTree]

namespace Settings

variable {files : Files (StateT σ n)} {state : σ} {present : Path → Bool}
  {answer : Path → Except AccessError String}

theorem run_firstPresent (seen : files.Shows state present answer) (paths : List Path) :
    (firstPresent files paths).run state = pure (paths.find? present, state) := by
  induction paths with
  | nil => rfl
  | cons path rest ih =>
    rw [firstPresent, StateT.run_bind, seen.contains, pure_bind, List.find?_cons]
    cases present path with
    | true => rfl
    | false => exact ih

theorem run_loadFile (seen : files.Shows state present answer) (path : Path) :
    (loadFile files path).run state = pure (ofRead path (answer path), state) := by
  rw [loadFile, StateT.run_bind, seen.readText, pure_bind]
  rfl

/-- The first path at which something is decides. -/
theorem run_load (seen : files.Shows state present answer) (vars : Variables)
    (accountHome : Option Path) :
    (load files vars accountHome).run state = pure (match
        (searchPaths vars accountHome).find? present with
      | none => prepared vars standard
      | some path => (ofRead path (answer path)).bind (prepared vars), state) := by
  rw [load, find, StateT.run_bind, StateT.run_bind, run_firstPresent seen, pure_bind]
  cases (searchPaths vars accountHome).find? present with
  | none =>
    rw [StateT.run_pure, pure_bind]
    rfl
  | some path =>
    dsimp only
    rw [run_loadFile seen, pure_bind]
    rfl

/-- What is read from a file is used if it can be. -/
theorem ofRead_bind (vars : Variables) (path : Path) (answer : Except AccessError String) :
    (ofRead path answer).bind (prepared vars) = match answer with
      | .error error => .error (.inaccessible path error.message)
      | .ok content =>
        match ofText content with
        | .error fault => .error (.malformed path fault.message)
        | .ok settings => prepared vars settings := by
  cases answer with
  | error error => rfl
  | ok content =>
    dsimp only
    rw [ofRead, ofContent]
    cases ofText content <;> rfl

theorem prepared_eq (vars : Variables) (settings : Settings) :
    ((settings.overridden vars).Usable → prepared vars settings = .ok (settings.overridden vars)) ∧
    ∀ fault, (settings.overridden vars).fault? = some fault →
      prepared vars settings = .error (.invalid fault.message) := by
  constructor
  · intro usable
    rw [prepared, validated, fault?_eq_none_iff.mpr usable]
  · intro fault found
    rw [prepared, validated, found]

end Settings

end States

/-! ## Commands -/

namespace Cli

open Settings

section Lawful

variable {m : Type → Type} [Monad m] [LawfulMonad m]

/-- The configuration with the settings that variables replace, known to be usable. -/
def usable (vars : Variables) (settings : Settings) :
    Except SettingsError {settings : Settings // settings.Usable} :=
  match found : (settings.overridden vars).fault? with
  | some fault => .error (.invalid fault.message)
  | none => .ok ⟨settings.overridden vars, fault?_eq_none_iff.mp found⟩

theorem map_usable (vars : Variables) (settings : Settings) :
    (usable vars settings).map Subtype.val = prepared vars settings := by
  rw [usable, prepared, validated]
  split
  · next found => simp [found, Except.map]
  · next found => simp [found, Except.map]

/-- The configuration to use, known to be usable. -/
def usableSettings (host : Host m) :
    Option Path → Action m {settings : Settings // settings.Usable}
  | none => do
    match (← (find host.files host.vars host.accountHome : m _)).bind (usable host.vars) with
    | .error error => throw (.noSettings error)
    | .ok settings => return settings
  | some path => do
    match ← (loadFile host.files path : m _) with
    | .error error => throw (.settingsFile path error)
    | .ok settings =>
      match usable host.vars settings with
      | .error error => throw (.invalidSettings error)
      | .ok settings => return settings

/-- Every configuration that is loaded is usable. -/
theorem loadSettings_eq (host : Host m) (config : Option Path) :
    loadSettings host config = do
      let settings ← usableSettings host config
      return settings.val := by
  cases config with
  | none =>
    have loaded : ∀ found : Except SettingsError Settings,
        found.bind (prepared host.vars) = (found.bind (usable host.vars)).map Subtype.val := by
      intro found
      cases found with
      | error error => rfl
      | ok settings => exact (map_usable host.vars settings).symm
    simp only [loadSettings, usableSettings, load, bind_assoc]
    apply ExceptT.ext
    rw [Action.run_lift_bind, Action.run_lift_bind, bind_assoc]
    refine bind_congr fun found => ?_
    rw [pure_bind, loaded]
    cases found.bind (usable host.vars) <;> simp [Except.map]
  | some path =>
    simp only [loadSettings, usableSettings, bind_assoc]
    refine bind_congr fun answer => ?_
    cases answer with
    | error error =>
      apply ExceptT.ext
      simp
    | ok settings =>
      dsimp only
      rw [← map_usable]
      cases usable host.vars settings <;> apply ExceptT.ext <;> simp [Except.map]

/-- What a command does with the configuration in use. -/
def runLoaded (host : Host m) (invocation : Invocation) (settings : Settings) :
    Action m ExitStatus :=
  let log := logger host
    (settings.verbosity.adjust invocation.verbose invocation.quiet).threshold
  match invocation.command with
  | .eval sample rules json => runEval host settings log sample rules json
  | .simulate hours seed tickMs rules =>
    runSimulate host settings log (effectiveSimulation settings hours seed tickMs) rules
  | .checkRules rules => runCheck host settings rules
  | .initConfig output => runInit host output

/-- A command that needs a configuration gets a usable one. -/
theorem perform_eq (host : Host m) (invocation : Invocation) :
    perform host invocation = match invocation.command with
      | .initConfig output => runInit host output
      | _ => usableSettings host invocation.config >>= fun settings =>
        runLoaded host invocation settings.val := by
  obtain ⟨config, verbose, quiet, command⟩ := invocation
  cases command <;> simp [perform, loadSettings_eq, runLoaded]

/-- The arguments of a command leave a usable configuration usable. -/
theorem usable_effectiveSimulation {settings : Settings} (usable : settings.Usable)
    (hours : Option UInt32) (seed tickMs : Option UInt64) (rules : Option Path) :
    ({ settings with
      simulation := effectiveSimulation settings hours seed tickMs
      rulesPath := rules.or settings.rulesPath } : Settings).Usable :=
  ⟨usable.light, usable.time, usable.weather, usable.named, usable.distinct, usable.startHour,
    usable.chance⟩

end Lawful

/-- In a state in which files show something, the first search path at which something is decides
alone which configuration is loaded, and so does the path that is named: a file that cannot be read
or holds no configuration is an error, and a configuration is used, with the settings that variables
replace, exactly when it is usable.  So every command that needs a configuration gets a usable one,
and its arguments leave it usable. -/
theorem first_present_decides {σ : Type} {n : Type → Type} [Monad n] [LawfulMonad n]
    (host : Host (StateT σ n)) (state : σ) (present : Path → Bool)
    (answer : Path → Except AccessError String) (seen : host.files.Shows state present answer) :
    ((load host.files host.vars host.accountHome).run state =
      pure (match (searchPaths host.vars host.accountHome).find? present with
        | none => prepared host.vars standard
        | some path =>
          match answer path with
          | .error error => .error (.inaccessible path error.message)
          | .ok content =>
            match ofText content with
            | .error fault => .error (.malformed path fault.message)
            | .ok settings => prepared host.vars settings, state)) ∧
    (∀ path, (loadSettings host (some path)).run.run state =
      pure (match answer path with
        | .error error => .error (.settingsFile path (.inaccessible path error.message))
        | .ok content =>
          match ofText content with
          | .error fault => .error (.settingsFile path (.malformed path fault.message))
          | .ok settings => (prepared host.vars settings).mapError .invalidSettings, state)) ∧
    (∀ settings : Settings,
      ((settings.overridden host.vars).Usable ↔ (settings.overridden host.vars).fault? = none) ∧
      ((settings.overridden host.vars).Usable →
        prepared host.vars settings = .ok (settings.overridden host.vars)) ∧
      ∀ fault, (settings.overridden host.vars).fault? = some fault →
        prepared host.vars settings = .error (.invalid fault.message)) ∧
    (∀ invocation : Invocation, perform host invocation = match invocation.command with
      | .initConfig output => runInit host output
      | _ => usableSettings host invocation.config >>= fun settings =>
        runLoaded host invocation settings.val) ∧
    ∀ settings : Settings, settings.Usable →
      ∀ (hours : Option UInt32) (seed tickMs : Option UInt64) (rules : Option Path),
        ({ settings with
          simulation := effectiveSimulation settings hours seed tickMs
          rulesPath := rules.or settings.rulesPath } : Settings).Usable := by
  refine ⟨?_, fun path => ?_,
    fun settings => ⟨fault?_eq_none_iff.symm, prepared_eq host.vars settings⟩,
    perform_eq host, fun settings usable => usable_effectiveSimulation usable⟩
  · rw [run_load seen]
    simp only [ofRead_bind]
  · rw [loadSettings, Action.run_lift_bind, StateT.run_bind, run_loadFile seen, pure_bind]
    cases answer path with
    | error error => rfl
    | ok content =>
      dsimp only
      rw [ofRead, ofContent]
      cases ofText content with
      | error fault => rfl
      | ok settings =>
        dsimp only [Except.mapError]
        cases prepared host.vars settings <;> rfl

/-- A file that is no text at the first of the search paths, and a good one at the last. -/
def unreadable : FileTree :=
  ((FileTree.bare ["home"]).placeFile ⟨"./fuzzylight.toml"⟩ ⟨#[0xFF]⟩).placeFile
    ⟨"/etc/fuzzylight/config.toml"⟩ ⟨#[]⟩

/-- The good file is not used in place of the first one. -/
theorem first_present_decides_unreadable :
    (Session.host (fun _ => none) 0).files.Shows unreadable unreadable.contains
      unreadable.readText ∧
    (load (Session.host (fun _ => none) 0).files (fun _ => none)).run unreadable =
      pure (.error (.inaccessible ⟨"./fuzzylight.toml"⟩ "stream did not contain valid UTF-8"),
        unreadable) ∧
    unreadable.readText ⟨"/etc/fuzzylight/config.toml"⟩ = .ok "" := by
  have seen : (Session.host (fun _ => none) 0).files.Shows unreadable unreadable.contains
      unreadable.readText := Files.ofTree_shows unreadable
  have present : unreadable.contains ⟨"./fuzzylight.toml"⟩ = true := by decide +kernel
  have answer : unreadable.readText ⟨"./fuzzylight.toml"⟩ = .error .notText := by decide +kernel
  have first : (searchPaths fun _ => none).find? unreadable.contains = some ⟨"./fuzzylight.toml"⟩ :=
    List.find?_cons_of_pos present
  have loaded := (first_present_decides (Session.host (fun _ => none) 0) unreadable
    unreadable.contains unreadable.readText seen).1
  have vars : (Session.host (fun _ => none) 0).vars = fun _ => none := rfl
  have accountHome : (Session.host (fun _ => none) 0).accountHome = none := rfl
  rw [vars, accountHome, first] at loaded
  simp only [answer] at loaded
  exact ⟨seen, loaded, by decide +kernel⟩

end Cli

end Lamplight
