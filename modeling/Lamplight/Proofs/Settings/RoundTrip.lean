import Lamplight.Proofs.Catalog
import Lamplight.Proofs.Files.Tree
import Lamplight.Proofs.Toml.Draft
import Lamplight.Settings.Store

/-!
# Configurations that are saved and loaded

A configuration without an undefined number is written as a document unless a word of it is too
large for one, and what is written is read as the very configuration: every name, text and number
of it, in the same order.  Main statement: `saved_is_loaded`.
-/

namespace Lamplight

namespace Settings

open Toml

theorem mem_optionalEntry {key : String} {value : Option Toml.Value}
    {entry : String × Toml.Value} :
    entry ∈ optionalEntry key value ↔ ∃ image, value = some image ∧ (key, image) = entry := by
  cases value with
  | none => simp [optionalEntry]
  | some image => simp [optionalEntry, eq_comm]

/-- The greatest whole number of a document. -/
def greatest : Nat := 2 ^ 63 - 1

/-- Whether no number of a triangle is undefined. -/
def DefinedTriangle (triangle : Triangle) : Prop :=
  triangle.left.isNaN = false ∧ triangle.peak.isNaN = false ∧ triangle.right.isNaN = false

instance (triangle : Triangle) : Decidable (DefinedTriangle triangle) :=
  inferInstanceAs (Decidable (_ ∧ _))

/-- Whether no number of a configuration is undefined. -/
structure Defined (settings : Settings) : Prop where
  light : ∀ entry ∈ settings.categories.light.entries, DefinedTriangle entry.2
  time : ∀ entry ∈ settings.categories.time.entries, DefinedTriangle entry.2
  chance : settings.simulation.chance.isNaN = false

/-- Whether a word of a configuration is too large for a document. -/
def TooLarge (settings : Settings) : Prop :=
  greatest < settings.simulation.tickMs.toNat ∨
    ∃ seed, settings.simulation.seed = some seed ∧ greatest < seed.toNat

/-! ## Values -/

section Values

theorem ofWord64_eq_ok {word : UInt64} (fits : ¬greatest < word.toNat) :
    ofWord64 word = .ok (.integer word.toNat) :=
  if_pos (Nat.lt_succ_of_le (Nat.le_of_not_lt fits))

theorem ofWord64_eq_error {word : UInt64} (large : greatest < word.toNat) :
    ofWord64 word = .error (.tooLarge word) :=
  if_neg (Nat.not_lt.mpr large)

/-- What is written item by item is read item by item. -/
theorem mapM_map {α β : Type} (write : α → β) (read? : β → Option α)
    (inverse : ∀ item, read? (write item) = some item) (items : List α) :
    (items.map write).mapM read? = some items := by
  induction items with
  | nil => rfl
  | cons item items ih =>
    rw [List.map_cons, List.mapM_cons, inverse, ih]
    rfl

theorem texts?_map (texts : List String) : texts? (.array (texts.map .text)) = some texts :=
  mapM_map Value.text text? (fun _ => rfl) texts

theorem triangles?_ofTriangles (terms : Catalog Triangle) :
    triangles? (.table (ofTriangles terms)) = some terms := by
  have read := mapM_map (fun entry : String × Triangle => (entry.1, ofTriangle entry.2))
    (fun entry => (triangle? entry.2).map (entry.1, ·)) (fun _ => rfl) terms.entries
  rw [triangles?, ofTriangles, read]
  exact congrArg some terms.ofList_entries

theorem natural?_ofNat {bound number : Nat} (below : number < bound) :
    natural? bound (.integer number) = some number := by
  rw [natural?, if_pos ⟨Int.natCast_nonneg number, Int.ofNat_lt.mpr below⟩, Int.toNat_natCast]

theorem word32?_ofWord32 (word : UInt32) : word32? (ofWord32 word) = some word := by
  rw [word32?, ofWord32, natural?_ofNat word.toNat_lt_size, Option.map_some, UInt32.ofNat_toNat]

theorem word64?_integer (word : UInt64) : word64? (.integer word.toNat) = some word := by
  rw [word64?, natural?_ofNat word.toNat_lt_size, Option.map_some, UInt64.ofNat_toNat]

end Values

/-! ## Documents -/

/-- The entries for the simulator. -/
def simulationLeaves (settings : SimulationSettings) : List (String × Value) :=
  [("start_hour", ofWord32 settings.startHour),
    ("hours", ofWord32 settings.hours),
    ("tick_ms", .integer settings.tickMs.toNat),
    ("weather_change_chance", .number settings.chance)] ++
      optionalEntry "seed" (settings.seed.map fun seed => .integer seed.toNat)

/-- The entries for the rules. -/
def rulesLeaves (settings : Settings) : List (String × Value) :=
  optionalEntry "path" (settings.rulesPath.map fun path => .text path.text)

/-- The parts of the document when every word fits. -/
def documentParts (settings : Settings) : List Part := [
  ⟨["general"], [("log_level", .text settings.verbosity.name)]⟩,
  ⟨["fuzzy"], [("weather", .array (settings.categories.weather.map .text))]⟩,
  ⟨["fuzzy", "light"], ofTriangles settings.categories.light⟩,
  ⟨["fuzzy", "time"], ofTriangles settings.categories.time⟩,
  ⟨["rules"], rulesLeaves settings⟩,
  ⟨["simulation"], simulationLeaves settings.simulation⟩]

/-- The tables of the document. -/
def documentEntries (settings : Settings) : List (String × Value) := [
  ("general", .table [("log_level", .text settings.verbosity.name)]),
  ("fuzzy", .table [
    ("weather", .array (settings.categories.weather.map .text)),
    ("light", .table (ofTriangles settings.categories.light)),
    ("time", .table (ofTriangles settings.categories.time))]),
  ("rules", .table (rulesLeaves settings)),
  ("simulation", .table (simulationLeaves settings.simulation))]

section Documents

variable {settings : Settings}

theorem simulationEntries_eq_ok (fits : ¬settings.TooLarge) :
    simulationEntries settings.simulation = .ok (simulationLeaves settings.simulation) := by
  rw [TooLarge, not_or, not_exists] at fits
  have seed : settings.simulation.seed.mapM ofWord64 =
      .ok (settings.simulation.seed.map fun seed => .integer seed.toNat) := by
    cases given : settings.simulation.seed with
    | none => rfl
    | some seed =>
      have small : ¬greatest < seed.toNat := fun large => fits.2 seed ⟨given, large⟩
      rw [Option.mapM_some, ofWord64_eq_ok small]
      rfl
  rw [simulationEntries, ofWord64_eq_ok fits.1, seed]
  rfl

theorem simulationEntries_eq_error (large : settings.TooLarge) :
    ∃ fault, simulationEntries settings.simulation = .error fault := by
  rcases large with tickMs | ⟨seed, given, large⟩
  · exact ⟨_, by rw [simulationEntries, ofWord64_eq_error tickMs]; rfl⟩
  · by_cases tickMs : greatest < settings.simulation.tickMs.toNat
    · exact ⟨_, by rw [simulationEntries, ofWord64_eq_error tickMs]; rfl⟩
    · refine ⟨.tooLarge seed, ?_⟩
      rw [simulationEntries, ofWord64_eq_ok tickMs, given, Option.mapM_some,
        ofWord64_eq_error large]
      rfl

theorem parts_eq_ok (fits : ¬settings.TooLarge) : settings.parts = .ok settings.documentParts := by
  rw [parts, simulationEntries_eq_ok fits]
  rfl

theorem parts_eq_error (large : settings.TooLarge) : ∃ fault, settings.parts = .error fault := by
  obtain ⟨fault, failed⟩ := simulationEntries_eq_error large
  exact ⟨fault, by rw [parts, failed]; rfl⟩

theorem writable_word32 (depth : Nat) (word : UInt32) : Writable depth (ofWord32 word) := by
  have small : word.toNat < 2 ^ 32 := word.toNat_lt
  refine .integer ?_ ?_
  · have : (0 : Int) ≤ word.toNat := Int.natCast_nonneg _
    simp only [Decimal.signBit]
    omega
  · simp only [Decimal.signBit]
    omega

theorem writable_word64 (depth : Nat) {word : UInt64} (fits : ¬greatest < word.toNat) :
    Writable depth (.integer word.toNat) := by
  simp only [greatest, Nat.not_lt] at fits
  refine .integer ?_ ?_
  · simp only [Decimal.signBit]
    omega
  · simp only [Decimal.signBit]
    omega

theorem writable_ofTriangles {terms : Catalog Triangle}
    (defined : ∀ entry ∈ terms.entries, DefinedTriangle entry.2) :
    ∀ entry ∈ ofTriangles terms, Writable nestingLimit entry.2 := by
  intro entry member
  obtain ⟨term, termIn, rfl⟩ := List.mem_map.mp member
  obtain ⟨left, peak, right⟩ := defined term termIn
  refine .array fun item itemIn => ?_
  simp only [List.mem_cons, List.not_mem_nil, or_false] at itemIn
  rcases itemIn with rfl | rfl | rfl
  · exact .number left
  · exact .number peak
  · exact .number right

theorem writable_documentParts (defined : settings.Defined) (fits : ¬settings.TooLarge) :
    ∀ part ∈ settings.documentParts, part.Writable := by
  have headed : ∀ {path : List String} {entries : List (String × Value)},
      0 < path.length → path.length ≤ 2 →
        (∀ entry ∈ entries, Writable nestingLimit entry.2) → Part.Writable ⟨path, entries⟩ := by
    intro path entries some few each
    exact ⟨List.ne_nil_of_length_pos some, Nat.le_trans few (by decide), each⟩
  simp only [documentParts, List.forall_mem_cons]
  refine ⟨headed (by decide) (by decide) ?_, headed (by decide) (by decide) ?_,
    headed (by decide) (by decide) (writable_ofTriangles defined.light),
    headed (by decide) (by decide) (writable_ofTriangles defined.time),
    headed (by decide) (by decide) ?_, headed (by decide) (by decide) ?_, List.forall_mem_nil _⟩
  · exact List.forall_mem_singleton.mpr (.text _)
  · refine List.forall_mem_singleton.mpr (.array fun item itemIn => ?_)
    obtain ⟨name, -, rfl⟩ := List.mem_map.mp itemIn
    exact .text name
  · intro entry member
    obtain ⟨image, given, rfl⟩ := mem_optionalEntry.mp member
    obtain ⟨path, -, rfl⟩ := Option.map_eq_some_iff.mp given
    exact .text path.text
  · rw [TooLarge, not_or, not_exists] at fits
    rw [simulationLeaves, List.forall_mem_append]
    constructor
    · simp only [List.forall_mem_cons]
      exact ⟨writable_word32 _ _, writable_word32 _ _, writable_word64 _ fits.1,
        .number defined.chance, List.forall_mem_nil _⟩
    · intro entry member
      obtain ⟨image, given, rfl⟩ := mem_optionalEntry.mp member
      obtain ⟨seed, known, rfl⟩ := Option.map_eq_some_iff.mp given
      exact writable_word64 _ fun large => fits.2 seed ⟨known, large⟩

theorem nodup_ofTriangles (terms : Catalog Triangle) :
    ((ofTriangles terms).map Prod.fst).Nodup := by
  have names : (ofTriangles terms).map Prod.fst = terms.names := by
    simp [ofTriangles, Catalog.names]
  rw [names]
  exact terms.nodup_names

theorem nodup_optionalEntry (key : String) (value : Option Toml.Value) :
    ((optionalEntry key value).map Prod.fst).Nodup := by
  cases value <;> simp [optionalEntry]

theorem nodup_simulationLeaves (settings : SimulationSettings) :
    ((simulationLeaves settings).map Prod.fst).Nodup := by
  cases given : settings.seed <;> simp [simulationLeaves, optionalEntry, given]

theorem nodup_entry (entry : String × Value) : ([entry].map Prod.fst).Nodup :=
  List.nodup_singleton entry.1

/-- The tables as they stand once all parts are read. -/
def documentDrafts (settings : Settings) : Draft.Entries := [
  Draft.headed "general" [("log_level", .text settings.verbosity.name)],
  ("fuzzy", .table .defined [
    ("weather", .leaf (.array (settings.categories.weather.map .text))),
    Draft.headed "light" (ofTriangles settings.categories.light),
    Draft.headed "time" (ofTriangles settings.categories.time)]),
  Draft.headed "rules" (rulesLeaves settings),
  Draft.headed "simulation" (simulationLeaves settings.simulation)]

/-- Every part stands behind the ones before it; those of the categories stand in one table. -/
theorem foldlM_documentParts (settings : Settings) :
    settings.documentParts.foldlM (fun assembly part => part.lines.foldlM Assembly.add assembly)
      ⟨[], []⟩ = .ok ⟨settings.documentDrafts, ["simulation"]⟩ := by
  have root := Draft.Hole.nil
  have general : Draft.Fresh "fuzzy"
      [Draft.headed "general" [("log_level", .text settings.verbosity.name)]] := by
    simp [Draft.Fresh, Draft.headed]
  have fuzzy := root.table general .defined
  rw [documentParts]
  refine foldlM_parts_cons (root.foldlM_part (List.forall_mem_nil _) (nodup_entry _) []) ?_
  refine foldlM_parts_cons (root.foldlM_part general (nodup_entry _) _) ?_
  refine foldlM_parts_cons (fuzzy.foldlM_part (by simp [Draft.Fresh, Draft.leaves])
    (nodup_ofTriangles _) _) ?_
  refine foldlM_parts_cons (fuzzy.foldlM_part (by simp [Draft.Fresh, Draft.headed, Draft.leaves])
    (nodup_ofTriangles _) _) ?_
  refine foldlM_parts_cons (root.foldlM_part (by simp [Draft.Fresh, Draft.headed, Draft.leaves])
    (nodup_optionalEntry _ _) _) ?_
  refine foldlM_parts_cons (root.foldlM_part (by simp [Draft.Fresh, Draft.headed, Draft.leaves])
    (nodup_simulationLeaves _) _) ?_
  rfl

theorem assemble_documentParts (settings : Settings) :
    assemble (documentLines settings.documentParts) = .ok settings.documentEntries := by
  have finished : Draft.finishEntries settings.documentDrafts = settings.documentEntries := by
    simp [documentDrafts, documentEntries, Draft.headed, Draft.finishEntries, Draft.finish]
  rw [assemble, foldlM_documentLines, foldlM_documentParts, ← finished]
  rfl

theorem read_of_value? {α : Type} {parts : Section} {name : String} {position : Nat}
    {read? : Toml.Value → Option α} {standard image : α} {value : Toml.Value}
    (found : parts.value? name position = some value) (reads : read? value = some image) :
    parts.read name position read? standard = .ok image := by
  simp only [Section.read, found, reads]

theorem readSection_of_value? {α : Type} {parts : Section} {name : String} {position : Nat}
    {read : Section → Except ReadFault α} {standard image : α}
    {entries : List (String × Toml.Value)}
    (found : parts.value? name position = some (.table entries))
    (reads : read (.named entries) = .ok image) :
    parts.readSection name position read standard = .ok image := by
  simp only [Section.readSection, found, Section.ofValue?, reads]

theorem readGeneral_entries (settings : Settings) :
    readGeneral (.named [("log_level", .text settings.verbosity.name)]) =
      .ok settings.verbosity := by
  have name : verbosity? (.text settings.verbosity.name) = some settings.verbosity :=
    Verbosity.ofName?_name settings.verbosity
  simp [readGeneral, Section.read, Section.value?, name]

theorem readCategories_entries (categories : Categories) :
    readCategories (.named [
      ("weather", .array (categories.weather.map .text)),
      ("light", .table (ofTriangles categories.light)),
      ("time", .table (ofTriangles categories.time))]) = .ok categories := by
  rw [readCategories, read_of_value? rfl (texts?_map _),
    read_of_value? rfl (triangles?_ofTriangles _), read_of_value? rfl (triangles?_ofTriangles _)]
  rfl

theorem readRulesPath_entries (settings : Settings) :
    readRulesPath (.named (rulesLeaves settings)) = .ok settings.rulesPath := by
  cases given : settings.rulesPath with
  | none => simp [readRulesPath, rulesLeaves, optionalEntry, given, Section.read, Section.value?]
  | some path =>
    simp [readRulesPath, rulesLeaves, optionalEntry, given, Section.read, Section.value?, path?,
      text?]

theorem readSimulation_entries (settings : SimulationSettings) :
    readSimulation (.named (simulationLeaves settings)) = .ok settings := by
  have startHour : (Section.named (simulationLeaves settings)).read "start_hour" 0 word32?
      SimulationSettings.standard.startHour = .ok settings.startHour :=
    read_of_value? rfl (word32?_ofWord32 _)
  have hours : (Section.named (simulationLeaves settings)).read "hours" 1 word32?
      SimulationSettings.standard.hours = .ok settings.hours :=
    read_of_value? rfl (word32?_ofWord32 _)
  have tickMs : (Section.named (simulationLeaves settings)).read "tick_ms" 2 word64?
      SimulationSettings.standard.tickMs = .ok settings.tickMs :=
    read_of_value? rfl (word64?_integer _)
  have chance : (Section.named (simulationLeaves settings)).read "weather_change_chance" 3 number?
      SimulationSettings.standard.chance = .ok settings.chance :=
    read_of_value? rfl rfl
  have seed : (Section.named (simulationLeaves settings)).read "seed" 4
      (fun value => (word64? value).map some) SimulationSettings.standard.seed =
        .ok settings.seed := by
    cases given : settings.seed with
    | none =>
      have absent : (Section.named (simulationLeaves settings)).value? "seed" 4 = none := by
        rw [simulationLeaves, given]
        rfl
      rw [Section.read, absent]
      rfl
    | some seed =>
      have present : (Section.named (simulationLeaves settings)).value? "seed" 4 =
          some (.integer seed.toNat) := by
        rw [simulationLeaves, given]
        rfl
      exact read_of_value? present (by rw [word64?_integer, Option.map_some])
  rw [readSimulation, startHour, hours, tickMs, chance, seed]
  rfl

theorem ofSection_documentEntries (settings : Settings) :
    ofSection (.named settings.documentEntries) = .ok settings := by
  rw [ofSection, readSection_of_value? rfl (readGeneral_entries settings),
    readSection_of_value? rfl (readCategories_entries settings.categories),
    readSection_of_value? rfl (readRulesPath_entries settings),
    readSection_of_value? rfl (readSimulation_entries settings.simulation)]
  rfl

/-- What is written is read as the configuration it was written for. -/
theorem ofText_of_toText {text : String} (defined : settings.Defined)
    (written : settings.toText = .ok text) : ofText text = .ok settings := by
  by_cases large : settings.TooLarge
  · obtain ⟨fault, failed⟩ := parts_eq_error large
    rw [toText, failed] at written
    cases written
  · rw [toText, parts_eq_ok large] at written
    cases written
    rw [ofText, read_documentText (writable_documentParts defined large),
      assemble_documentParts]
    exact ofSection_documentEntries settings

end Documents

/-! ## Files -/

section Files

variable {settings : Settings}

theorem toContent_of_tooLarge (large : settings.TooLarge) :
    ∃ reason, settings.toContent = .error (.unwritable reason) := by
  obtain ⟨fault, failed⟩ := parts_eq_error large
  exact ⟨fault.message, by rw [toContent, toText, failed]; rfl⟩

theorem toContent_of_not_tooLarge (defined : settings.Defined) (fits : ¬settings.TooLarge) :
    ∃ text, settings.toContent = .ok text ∧ ofText text = .ok settings := by
  have written : settings.toText = .ok (documentText settings.documentParts) := by
    rw [toText, parts_eq_ok fits]
    rfl
  exact ⟨_, by rw [toContent, written]; rfl, ofText_of_toText defined written⟩

/-- What becomes of a tree when a configuration that can be written is saved in it. -/
theorem run_save {text : String} (content : settings.toContent = .ok text) (path : Path)
    (tree : FileTree) :
    (save (Files.ofTree (StateM FileTree)) path settings).run tree =
      match tree.writeText path text with
      | .error error => (.error (.inaccessible path error.message), tree)
      | .ok after => (.ok (), after) := by
  rw [save, content]
  simp only [StateT.run_bind, FileTree.run_writeText]
  cases tree.writeText path text <;> rfl

/-- A configuration is saved where the path leads to, provided that no directory is there. -/
theorem exists_save {location : Location} {text : String} {path : Path} {tree : FileTree}
    (content : settings.toContent = .ok text) (followed : tree.follow path = .ok location)
    (noDirectory : tree.node? location ≠ some .directory) (noSlash : path.endsInSlash = false) :
    ∃ after, (save (Files.ofTree (StateM FileTree)) path settings).run tree = (.ok (), after) := by
  have written : tree.writeText path text = .ok _ :=
    FileTree.writeText_eq_ok_iff.mpr ⟨location, followed, noDirectory, noSlash, rfl⟩
  exact ⟨_, by rw [run_save content, written]⟩

/-- What is saved in a tree of files is loaded from it. -/
theorem loadFile_of_save (defined : settings.Defined) {path : Path} {tree after : FileTree}
    (saved : (save (Files.ofTree (StateM FileTree)) path settings).run tree = (.ok (), after)) :
    (loadFile (Files.ofTree (StateM FileTree)) path).run after = (.ok settings, after) := by
  by_cases large : settings.TooLarge
  · obtain ⟨reason, failed⟩ := toContent_of_tooLarge large
    rw [save, failed] at saved
    cases saved
  · obtain ⟨text, content, read⟩ := toContent_of_not_tooLarge defined large
    have loaded : ofContent path text = .ok settings := by
      rw [ofContent, read]
      rfl
    rw [run_save content] at saved
    cases written : tree.writeText path text with
    | error error =>
      rw [written] at saved
      cases saved
    | ok changed =>
      rw [written] at saved
      obtain rfl : changed = after := congrArg Prod.snd saved
      have result : (loadFile (Files.ofTree (StateM FileTree)) path).run changed =
          (ofRead path (changed.readText path), changed) := rfl
      rw [result, FileTree.readText_of_writeText written, ofRead, loaded]

/-- A configuration without an undefined number is written unless a word of it is too large for a
document; then nothing is done to any file.  What is written is read as the configuration, also
when it is saved in a file and loaded from there. -/
theorem saved_is_loaded {settings : Settings} (defined : settings.Defined) :
    (settings.TooLarge → ∃ reason, settings.toContent = .error (.unwritable reason) ∧
      ∀ {m : Type → Type} [Monad m] (files : Files m) (path : Path),
        save files path settings = pure (.error (.unwritable reason))) ∧
    (¬settings.TooLarge → ∃ text, settings.toContent = .ok text ∧ ofText text = .ok settings) ∧
    ∀ (path : Path) (tree after : FileTree),
      (save (Files.ofTree (StateM FileTree)) path settings).run tree = (.ok (), after) →
        (loadFile (Files.ofTree (StateM FileTree)) path).run after = (.ok settings, after) := by
  refine ⟨fun large => ?_, toContent_of_not_tooLarge defined, fun path tree after saved =>
    loadFile_of_save defined saved⟩
  obtain ⟨reason, failed⟩ := toContent_of_tooLarge large
  exact ⟨reason, failed, fun files path => by rw [save, failed]⟩

/-- A configuration whose names and texts need every kind of quotes, with infinite numbers, a
negative zero and the greatest seed that can be written. -/
def awkward : Settings where
  verbosity := .debug
  categories := ⟨["", "it's \"raining\"", "'''\n\"\"\"\\", "\x00"],
    ⟨[("", ⟨-0.0, 0.1, 1e22⟩), ("a.b", ⟨-1 / 0, 2.5e-7, 1 / 0⟩)], by decide⟩, ⟨[], by decide⟩⟩
  rulesPath := some ⟨"C:\\rules\t'.toml"⟩
  simulation := ⟨0, 4294967295, 0, -0.5, some 9223372036854775807⟩

theorem saved_is_loaded_awkward :
    let files := Files.ofTree (StateM FileTree)
    let path : Path := ⟨"awkward.toml"⟩
    awkward.Defined ∧
    (∃ text, awkward.toContent = .ok text ∧ ofText text = .ok awkward) ∧
    ∃ after, (save files path awkward).run (FileTree.bare ["home"]) = (.ok (), after) ∧
      (loadFile files path).run after = (.ok awkward, after) := by
  intro files path
  have defined : awkward.Defined := ⟨by decide, by decide, by decide⟩
  have fits : ¬awkward.TooLarge := by simp [TooLarge, awkward, greatest]
  obtain ⟨text, content, read⟩ := (saved_is_loaded defined).2.1 fits
  have followed : (FileTree.bare ["home"]).follow path = .ok ["home", "awkward.toml"] := by
    decide +kernel
  obtain ⟨after, saved⟩ := exists_save content followed (by rintro ⟨⟩) (by decide +kernel)
  exact ⟨defined, ⟨text, content, read⟩, after, saved,
    (saved_is_loaded defined).2.2 path _ after saved⟩

end Files

end Settings

end Lamplight
