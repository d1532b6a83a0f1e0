import Lamplight.Proofs.Files.Tree
import Lamplight.Proofs.Rule.Documents
import Lamplight.Proofs.Settings.Loading

/-!
# Sources in files

A source in a file answers each fetch from what the file holds at that moment, and remembers nothing
in between.  Whatever is wrong is told under one of two codes, with the path of the file.  Main
statement: `RuleSource.inFile_reads_anew`.
-/

namespace Lamplight

/-! ## Failures with a path -/

namespace Failure

variable {failure : Failure} {name value : String}

@[simp] theorem code_withField : (failure.withField name value).code = failure.code := rfl

@[simp] theorem message_withField : (failure.withField name value).message = failure.message := rfl

@[simp] theorem location_withField : (failure.withField name value).contextOrEmpty.location =
    failure.contextOrEmpty.location := rfl

@[simp] theorem field?_withField_self : (failure.withField name value).field? name = some value :=
  Ordered.get?_insert_self _ name value

theorem field?_withField_of_ne {other : String} (different : other ≠ name) :
    (failure.withField name value).field? other = failure.field? other :=
  Ordered.get?_insert_of_ne different _ value

end Failure

namespace RuleSource

/-! ## One fetch -/

section Content

variable {path : Path} {format : RuleFormat} {answer : Except AccessError String}

/-- Rules are fetched where a document is read and gives them. -/
theorem ofContent_eq_ok_iff {rules : List Rule} : ofContent path format answer = .ok rules ↔
    ∃ content, answer = .ok content ∧ readRules content format = .ok rules := by
  cases answer with
  | error error => exact ⟨nofun, nofun⟩
  | ok content =>
    rw [ofContent, mapError_eq_ok_iff]
    constructor
    · intro read
      exact ⟨content, rfl, read⟩
    · rintro ⟨_, ⟨⟩, read⟩
      exact read

/-- The failure of a document that is refused is kept, and told the path. -/
theorem ofContent_of_refused {content : String} {cause : Failure}
    (refused : readRules content format = .error cause) :
    ofContent path format (.ok content) = .error (cause.withField "path" path.text) := by
  rw [ofContent, refused]
  rfl

/-- A fetch that fails tells so, and tells the path. -/
theorem ofContent_failed {failure : Failure}
    (failed : ofContent path format answer = .error failure) :
    failure.isRuleSource = true ∧ failure.field? "path" = some path.text := by
  cases answer with
  | error error =>
    cases failed
    exact ⟨rfl, Failure.field?_withField_self⟩
  | ok content =>
    cases result : readRules content format with
    | ok rules =>
      rw [ofContent, result] at failed
      cases failed
    | error cause =>
      rw [ofContent_of_refused result] at failed
      cases failed
      refine ⟨?_, Failure.field?_withField_self⟩
      rw [Failure.isRuleSource, Failure.code_withField, code_of_readRules result]
      rfl

end Content

/-! ## Many fetches -/

/-- What happens while a source of rules is in use: the host changes, be it that files are written
or removed or directories are made, or the rules are fetched. -/
inductive Happening (σ : Type)
  | change (update : σ → σ)
  | fetch

section Happenings

variable {σ : Type} {n : Type → Type} [Monad n]

/-- The state after something happened; a fetch leaves it as it is. -/
def Happening.next (state : σ) : Happening σ → σ
  | .change update => update state
  | .fetch => state

/-- The states in which the rules are fetched. -/
def moments (state : σ) : List (Happening σ) → List σ
  | [] => []
  | .change update :: rest => moments (update state) rest
  | .fetch :: rest => state :: moments state rest

/-- What a source answers to the fetches. -/
def answers (source : RuleSource (StateT σ n)) :
    List (Happening σ) → StateT σ n (List (Except Failure (List Rule)))
  | [] => return []
  | .change update :: rest => do
    modify update
    answers source rest
  | .fetch :: rest => do
    let answer ← source.fetch
    return answer :: (← answers source rest)

variable [LawfulMonad n] {files : Files (StateT σ n)} {present : σ → Path → Bool}
  {answer : σ → Path → Except AccessError String}

/-- A fetch from a file looks at the file once and changes nothing. -/
theorem run_fetch (seen : ∀ state, files.Shows state (present state) (answer state)) (path : Path)
    (format : RuleFormat) (state : σ) :
    (inFile files path format).fetch.run state =
      pure (ofContent path format (answer state path), state) := by
  rw [inFile, StateT.run_bind, (seen state).readText, pure_bind]
  rfl

/-- Each fetch is answered from the state at its moment. -/
theorem run_answers (seen : ∀ state, files.Shows state (present state) (answer state)) (path : Path)
    (format : RuleFormat) (happenings : List (Happening σ)) (state : σ) :
    (answers (inFile files path format) happenings).run state =
      pure ((moments state happenings).map fun moment =>
        ofContent path format (answer moment path), happenings.foldl Happening.next state) := by
  induction happenings generalizing state with
  | nil => rfl
  | cons happening rest ih =>
    cases happening with
    | change update =>
      rw [answers, StateT.run_bind, StateT.run_modify, pure_bind, ih]
      rfl
    | fetch =>
      rw [answers, StateT.run_bind, run_fetch seen, pure_bind]
      dsimp only
      rw [StateT.run_bind, ih, pure_bind, StateT.run_pure]
      rfl

end Happenings

/-- While files change, each fetch is answered from what the file holds at its moment, and from
nothing else.  Rules are fetched exactly where the file is read and its content is a document that
gives them.  A file that cannot be read is unavailable, whatever the reason; a document that is
refused is an invalid one, and what was noted about it is kept.  Every failure is that of a source
of rules and tells the path; no rules are fetched only from a document that has none.  In a tree of
files, a text is read where the path leads to its bytes and nothing is read elsewhere, so a file is
as good as new once it was written over. -/
theorem inFile_reads_anew (path : Path) (format : RuleFormat) :
    (∀ {σ : Type} {n : Type → Type} [Monad n] [LawfulMonad n] (files : Files (StateT σ n))
        (present : σ → Path → Bool) (answer : σ → Path → Except AccessError String),
      (∀ state, files.Shows state (present state) (answer state)) →
      ∀ (happenings : List (Happening σ)) (state : σ),
        (answers (inFile files path format) happenings).run state =
          pure ((moments state happenings).map fun moment =>
            ofContent path format (answer moment path), happenings.foldl Happening.next state)) ∧
    (∀ (answer : Except AccessError String),
      (∀ rules, ofContent path format answer = .ok rules ↔
        ∃ content, answer = .ok content ∧ readRules content format = .ok rules) ∧
      (∀ error, answer = .error error → ∃ failure,
        ofContent path format answer = .error failure ∧ failure.code = .unavailable) ∧
      (∀ content cause, answer = .ok content → readRules content format = .error cause →
        ∃ failure, ofContent path format answer = .error failure ∧ failure.code = .invalidRecord ∧
          failure.message = cause.message ∧
          failure.contextOrEmpty.location = cause.contextOrEmpty.location ∧
          ∀ name, name ≠ "path" → failure.field? name = cause.field? name) ∧
      (∀ failure, ofContent path format answer = .error failure →
        failure.isRuleSource = true ∧ failure.field? "path" = some path.text) ∧
      (ofContent path format answer = .ok [] → ∃ content, answer = .ok content ∧
        match format with
        | .json => Json.Source.read content = .ok (.array [])
        | .toml => ∃ entries, Toml.read content = .ok entries ∧
          (entries.lookup "rule" = none ∨ entries.lookup "rule" = some (.array [])))) ∧
    ∀ tree : FileTree,
      (Files.ofTree (StateM FileTree)).Shows tree tree.contains tree.readText ∧
      (∀ text, tree.readText path = .ok text ↔ tree.find path = .ok (.file text.toUTF8)) ∧
      (∀ error, tree.find path = .error error → tree.readText path = .error error) ∧
      (tree.find path = .ok .directory → tree.readText path = .error .isDirectory) ∧
      (∀ bytes, tree.find path = .ok (.file bytes) → (∀ text : String, bytes ≠ text.toUTF8) →
        tree.readText path = .error .notText) ∧
      ∀ text repaired rules, tree.writeText path text = .ok repaired →
        readRules text format = .ok rules →
        ofContent path format (repaired.readText path) = .ok rules := by
  refine ⟨?_, ?_, ?_⟩
  · intro σ n _ _ files present answer seen happenings state
    exact run_answers seen path format happenings state
  · intro answer
    refine ⟨fun rules => ofContent_eq_ok_iff, ?_, ?_, fun failure => ofContent_failed, ?_⟩
    · rintro error rfl
      exact ⟨_, rfl, rfl⟩
    · rintro content cause rfl refused
      refine ⟨_, ofContent_of_refused refused, ?_, Failure.message_withField,
        Failure.location_withField, ?_⟩
      · rw [Failure.code_withField, code_of_readRules refused]
      · intro name different
        exact Failure.field?_withField_of_ne different
    · intro empty
      obtain ⟨content, rfl, read⟩ := ofContent_eq_ok_iff.mp empty
      refine ⟨content, rfl, ?_⟩
      have none := records_of_readRules_nil read
      cases format with
      | json => exact read_of_records_nil_json none
      | toml => exact read_of_records_nil_toml none
  · intro tree
    refine ⟨Files.ofTree_shows tree, fun text => FileTree.readText_eq_ok_iff,
      fun error => FileTree.readText_of_find_error, FileTree.readText_of_directory,
      fun bytes => FileTree.readText_of_bytes, ?_⟩
    intro text repaired rules written read
    rw [FileTree.readText_of_writeText written, ofContent_eq_ok_iff]
    exact ⟨text, rfl, read⟩

/-- A fetch before there is anything, from a directory, from bytes that are no text, from a document
that is refused, twice from a good one, and from an empty one. -/
def mishaps (path : Path) : List (Happening FileTree) := [
  .fetch,
  .change (·.placeDirectory path), .fetch,
  .change (·.remove path), .change (·.placeFile path ⟨#[0xFF]⟩), .fetch,
  .change (·.placeFile path "[[\"dusk\"]]".toUTF8), .fetch,
  .change (·.placeFile path "[[\"dusk\", \"\", \"\", 1, \"dim\"]]".toUTF8), .fetch, .fetch,
  .change (·.placeFile path "[]".toUTF8), .fetch]

/-- The code of a failure, or the names of the rules. -/
def shown : Except Failure (List Rule) → Option Failure.Code × List String
  | .error failure => (some failure.code, [])
  | .ok rules => (none, rules.map Rule.name)

/-- Each mishap is told and none is remembered; other failures of the system and repaired files are
no exceptions. -/
theorem inFile_reads_anew_of_mishaps :
    let path : Path := ⟨"rules.json"⟩
    let tree : FileTree := FileTree.bare ["home"]
    (∃ results after, (answers (inFile (Files.ofTree (StateM FileTree)) path .json)
        (mishaps path)).run tree = pure (results, after) ∧
      results.map shown = [(some .unavailable, []), (some .unavailable, []),
        (some .unavailable, []), (some .invalidRecord, []), (none, ["dusk"]), (none, ["dusk"]),
        (none, [])]) ∧
    (∃ failure, ofContent path .json (.error (.reported .timedOut "late")) = .error failure ∧
      failure.code = .unavailable ∧ failure.isRuleSource = true) ∧
    (∃ cause failure : Failure, ofContent path .json (.ok "[") = .error failure ∧
      failure.code = .invalidRecord ∧ failure.field? "format" = cause.field? "format" ∧
      failure.field? "path" = some "rules.json") ∧
    Json.Source.read "[]" = .ok (.array []) ∧
    ∃ repaired, tree.writeText path "[]" = .ok repaired ∧
      ofContent path .json (repaired.readText path) = .ok [] := by
  intro path tree
  obtain ⟨runs, told, trees⟩ := inFile_reads_anew path .json
  have empty : readRules "[]" .json = .ok [] := by
    obtain ⟨rules, decoded, nameless⟩ : ∃ rules,
        Rule.records "[]" .json = .ok rules ∧ rules.map Rule.name = [] :=
      Rule.records_of_shown (by decide +kernel)
    cases List.map_eq_nil_iff.mp nameless
    rw [readRules_of_complete decoded (List.forall_mem_nil _), Rule.byPriority, List.mergeSort_nil]
  have undecoded : Rule.records "[" .json = .error (.json (.unexpected 0)) :=
    Rule.records_of_refused (by decide +kernel)
  have refused := readRules_of_undecoded undecoded
  have followed : tree.follow path = .ok ["home", "rules.json"] := by decide +kernel
  have written : tree.writeText path "[]" = .ok _ :=
    FileTree.writeText_eq_ok_iff.mpr ⟨_, followed, by rintro ⟨⟩, by decide +kernel, rfl⟩
  have run := runs (Files.ofTree (StateM FileTree)) FileTree.contains FileTree.readText
    Files.ofTree_shows (mishaps path) tree
  refine ⟨⟨_, _, run, by decide +kernel⟩, ?_, ?_, ?_, _, written,
    (trees tree).2.2.2.2.2 _ _ [] written empty⟩
  · obtain ⟨failure, failed, code⟩ := (told (.error (.reported .timedOut "late"))).2.1 _ rfl
    exact ⟨failure, failed, code, ((told _).2.2.2.1 failure failed).1⟩
  · obtain ⟨failure, failed, code, _, _, kept⟩ := (told (.ok "[")).2.2.1 _ _ rfl refused
    exact ⟨_, failure, failed, code, kept "format" (by decide),
      ((told _).2.2.2.1 failure failed).2⟩
  · obtain ⟨content, same, read⟩ :=
      (told (.ok "[]")).2.2.2.2 (ofContent_eq_ok_iff.mpr ⟨_, rfl, empty⟩)
    cases same
    exact read

end RuleSource

end Lamplight
