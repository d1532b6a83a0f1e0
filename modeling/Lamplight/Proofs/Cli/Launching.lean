import Lamplight.Proofs.Cli.Simulating
import Lamplight.Proofs.Scanning
import Lamplight.Proofs.Settings.Loading

/-!
# Sessions that simulate

A session that is to simulate loads a configuration, and prints what its command prints with it.
The configuration is that of one document with the settings that variables replace, if it is usable.
Main statements: `loaded_iff` and `runSession_of_prints`.
-/

namespace Lamplight.Cli

open Settings

/-! ## Which configuration is loaded -/

section Loaded

variable {tree : FileTree} {vars : Variables} {home : Option Path} {settings : Settings}
  {config : Option Path}

theorem prepared_eq_ok_iff {read : Settings} : prepared vars read = .ok settings ↔
    read.overridden vars = settings ∧ settings.Usable := by
  rw [prepared, validated, ← fault?_eq_none_iff]
  constructor
  · intro ok
    split at ok
    · cases ok
    · next sound =>
      cases ok
      exact ⟨rfl, sound⟩
  · rintro ⟨rfl, sound⟩
    rw [sound]

/-- The document that a configuration is read from: that of the named file, else of the first file
that is at a search path.  It is empty if there is none. -/
def document? (tree : FileTree) (vars : Variables) (home config : Option Path) : Option Section :=
  match config.or ((searchPaths vars home).find? tree.contains) with
  | none => some (.named [])
  | some path => (tree.readText path).toOption.bind fun text =>
    (Toml.read text).toOption.map .named

/-- What is loaded, or why nothing is. -/
def loading (tree : FileTree) (vars : Variables) (home : Option Path) :
    Option Path → Except CommandError Settings
  | none => (match (searchPaths vars home).find? tree.contains with
    | none => prepared vars standard
    | some path => (ofRead path (tree.readText path)).bind (prepared vars)).mapError .noSettings
  | some path => match ofRead path (tree.readText path) with
    | .error error => .error (.settingsFile path error)
    | .ok read => (prepared vars read).mapError .invalidSettings

theorem run_loadSettings (fresh : UInt64) :
    (loadSettings (Session.host vars fresh home) config).run.run tree =
      pure (loading tree vars home config, tree) := by
  have seen : (Session.host vars fresh home).files.Shows tree tree.contains tree.readText :=
    Files.ofTree_shows tree
  have same : (Session.host vars fresh home).vars = vars := rfl
  have account : (Session.host vars fresh home).accountHome = home := rfl
  cases config with
  | none =>
    rw [loadSettings, Action.run_lift_bind, StateT.run_bind, run_load seen, pure_bind, loading,
      same, account]
    cases (searchPaths vars home).find? tree.contains with
    | none =>
      dsimp only
      cases prepared vars standard <;> rfl
    | some path =>
      dsimp only
      cases (ofRead path (tree.readText path)).bind (prepared vars) <;> rfl
  | some path =>
    rw [loadSettings, Action.run_lift_bind, StateT.run_bind, run_loadFile seen, pure_bind, loading,
      same]
    cases ofRead path (tree.readText path) with
    | error error => rfl
    | ok read =>
      dsimp only
      cases prepared vars read <;> rfl

theorem ofRead_eq_ok_iff {path : Path} {read : Settings} :
    ofRead path (tree.readText path) = .ok read ↔ ∃ document,
      ((tree.readText path).toOption.bind fun text => (Toml.read text).toOption.map Section.named) =
        some document ∧ ofSection document = .ok read := by
  cases tree.readText path with
  | error error => simp [ofRead, Except.toOption]
  | ok text =>
    rw [ofRead, ofContent, ofText]
    simp only [Except.toOption, Option.bind_some]
    cases Toml.read text with
    | error fault => simp [Except.mapError]
    | ok entries =>
      simp only [Option.map_some, Option.some.injEq, exists_eq_left']
      cases ofSection (.named entries) <;> simp [Except.mapError]

theorem bind_prepared_eq_ok_iff {found : Except SettingsError Settings} :
    found.bind (prepared vars) = .ok settings ↔
      ∃ read, found = .ok read ∧ read.overridden vars = settings ∧ settings.Usable := by
  simp only [← prepared_eq_ok_iff]
  exact bind_eq_ok_iff

theorem loading_eq_ok_iff : loading tree vars home config = .ok settings ↔
    ∃ document read, document? tree vars home config = some document ∧
      ofSection document = .ok read ∧ read.overridden vars = settings ∧ settings.Usable := by
  have ofFile : ∀ path, (ofRead path (tree.readText path)).bind (prepared vars) = .ok settings ↔
      ∃ document read, document? tree vars home (some path) = some document ∧
        ofSection document = .ok read ∧ read.overridden vars = settings ∧ settings.Usable := by
    intro path
    rw [bind_prepared_eq_ok_iff]
    constructor
    · rintro ⟨read, found, used⟩
      obtain ⟨document, held, decoded⟩ := ofRead_eq_ok_iff.mp found
      exact ⟨document, read, held, decoded, used⟩
    · rintro ⟨document, read, held, decoded, used⟩
      exact ⟨read, ofRead_eq_ok_iff.mpr ⟨document, held, decoded⟩, used⟩
  cases config with
  | some path =>
    rw [← ofFile, loading]
    cases ofRead path (tree.readText path) with
    | error error => simp [Except.bind]
    | ok read => exact mapError_eq_ok_iff
  | none =>
    rw [loading, mapError_eq_ok_iff, document?, Option.none_or]
    cases (searchPaths vars home).find? tree.contains with
    | some path => exact ofFile path
    | none =>
      have empty : ofSection (.named []) = .ok standard := rfl
      simp [prepared_eq_ok_iff, empty]

/-- A configuration is loaded when it is that of the document with the settings that variables
replace, and is usable. -/
theorem loaded_iff (fresh : UInt64) :
    (loadSettings (Session.host vars fresh home) config).run.run tree = pure (.ok settings, tree) ↔
      ∃ document read, document? tree vars home config = some document ∧
        ofSection document = .ok read ∧ read.overridden vars = settings ∧ settings.Usable := by
  rw [run_loadSettings, ← loading_eq_ok_iff]
  constructor
  · intro same
    exact congrArg (fun program : StateM Transcript _ => (program.run .empty).1.1) same
  · intro loaded
    rw [loaded]

/-- The standard configuration can be used. -/
theorem usable_standard : standard.Usable :=
  fault?_eq_none_iff.mp (Option.isNone_iff_eq_none.mp (by decide +kernel))

/-- Where no variable is set and no configuration is found, the standard one is loaded. -/
theorem loaded_standard
    (nowhere : (searchPaths (fun _ => none) home).find? tree.contains = none) (fresh : UInt64) :
    (loadSettings (Session.host (fun _ => none) fresh home) none).run.run tree =
      pure (.ok standard, tree) := by
  refine (loaded_iff fresh).mpr ⟨.named [], standard, ?_, rfl, rfl, usable_standard⟩
  rw [document?, nowhere]
  rfl

end Loaded

section Invocations

variable {invocation : Invocation} {hours : Option UInt32} {seed tickMs : Option UInt64}
  {rules : Option Path}

theorem perform_of_simulate {m : Type → Type} [Monad m] [LawfulMonad m] (host : Host m)
    (command : invocation.command = .simulate hours seed tickMs rules) :
    perform host invocation = loadSettings host invocation.config >>=
      runLoaded host invocation := by
  obtain ⟨config, verbose, quiet, _⟩ := invocation
  subst command
  rfl

theorem runLoaded_of_simulate {m : Type → Type} [Monad m] (host : Host m) (settings : Settings)
    (command : invocation.command = .simulate hours seed tickMs rules) :
    runLoaded host invocation settings =
      runSimulate host settings (logger host
        (settings.verbosity.adjust invocation.verbose invocation.quiet).threshold)
        (effectiveSimulation settings hours seed tickMs) rules := by
  rw [runLoaded, command]

/-- Write a line about something that went wrong or was done. -/
def reported (line : String) : StateM Transcript Unit :=
  modify fun transcript => { transcript with reports := transcript.reports ++ [line] }

theorem Prints.reported (line : String) : Prints (reported line) [] () :=
  fun _ => ⟨rfl, (List.append_nil _).symm⟩

theorem run_reports (vars : Variables) (fresh : UInt64) (home : Option Path)
    (lines : List String) (tree : FileTree) :
    (lines.forM (Session.host vars fresh home).report).run tree =
      lines.forM reported >>= fun _ => pure ((), tree) :=
  Installation.run_forM_lift lines reported tree

/-- The status of a command. -/
def statusOf : Except CommandError ExitStatus → ExitStatus
  | .ok status => status
  | .error _ => .failure

/-- A session that simulates prints what its command prints once the configuration is loaded. -/
theorem runSession_of_prints {tree later : FileTree} {vars : Variables} {fresh : UInt64}
    {home : Option Path} {arguments : List String} {settings : Settings} {lines : List String}
    {result : Except CommandError ExitStatus}
    (read : Invocation.read arguments = .ok invocation)
    (command : invocation.command = .simulate hours seed tickMs rules)
    (loaded : (loadSettings (Session.host vars fresh home) invocation.config).run.run tree =
      pure (.ok settings, tree))
    (prints : Prints ((runLoaded (Session.host vars fresh home) invocation settings).run.run tree)
      lines (result, later)) :
    (runSession tree vars fresh arguments home).transcript.output = lines ∧
      (runSession tree vars fresh arguments home).status = statusOf result := by
  have performed : (perform (Session.host vars fresh home) invocation).run.run tree =
      (runLoaded (Session.host vars fresh home) invocation settings).run.run tree := by
    rw [perform_of_simulate _ command, ExceptT.run_bind, StateT.run_bind, loaded, pure_bind]
  have ran : Prints ((run (Session.host vars fresh home) arguments).run tree) lines
      (statusOf result, later) := by
    rw [run, read]
    simp only [StateT.run_bind, performed]
    refine prints.bind_silent ?_
    cases result with
    | ok status => exact .pure _
    | error error =>
      -- What went wrong is told beside the output.
      simp only [StateT.run_bind, run_reports, bind_assoc, pure_bind]
      exact .silent_bind (.forM_silent _ .reported) (.pure _)
  obtain ⟨value, output⟩ := ran .empty
  exact ⟨output, congrArg Prod.fst value⟩

end Invocations

end Lamplight.Cli
