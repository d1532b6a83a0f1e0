import Lamplight.Proofs.Rule.Documents
import Lamplight.Proofs.Toml.Elements
import Lamplight.Rule.Source

/-!
# Rules in tables

A list of rules can be written in a document, a table for each rule, and is read back from it,
provided that their numbers are whole numbers of 64 bits.  The document with the bundled rules is
written like this.  Main statements: `readRules_tablesText` and `readRules_bundledDocument`.
-/

namespace Lamplight

namespace Rule

/-! ## Tables of rules -/

/-- Whether the priority of a rule, and the intensity if there is one, are whole numbers of 64
bits. -/
structure Tabular (rule : Rule) : Prop where
  priority : fitsWord rule.priority = true
  intensity : ∀ intensity, rule.intensity = some intensity →
    ∃ number, intensity = .integer number ∧ fitsWord number = true

/-- The value of a table that stands for an intensity, if it is a whole number. -/
def wholeValue? : Json → Option Toml.Value
  | .integer number => some (.integer number)
  | _ => none

/-- The entries of the table of a rule. -/
def tableEntries (rule : Rule) : List (String × Toml.Value) :=
  [("name", .text rule.name), ("description", .text rule.description),
    ("condition", .text rule.condition), ("priority", .integer rule.priority),
    ("action_name", .text rule.action)] ++
      (rule.intensity.bind wholeValue?).toList.map ("intensity", ·)

/-- The rows of a document with some rules, and with comments in front. -/
def tablesRows (comments : List String) (rules : List Rule) : List (List Char) :=
  Toml.elementsRows comments "rule" (rules.map tableEntries)

/-- The text of a document with some rules, and with comments in front. -/
def tablesText (comments : List String) (rules : List Rule) : String :=
  .ofList (Toml.rowsChars (tablesRows comments rules))

section Tables

variable {rule : Rule} {rules : List Rule}

theorem writable_integer {number : Int} (fits : fitsWord number = true) :
    Toml.Writable Toml.nestingLimit (.integer number) := by
  rw [fitsWord, Bool.and_eq_true, decide_eq_true_eq, decide_eq_true_eq] at fits
  exact .integer fits.1 fits.2

theorem Tabular.cases (tabular : rule.Tabular) : rule.intensity = none ∨
    ∃ number, rule.intensity = some (.integer number) ∧ fitsWord number = true := by
  cases given : rule.intensity with
  | none => exact .inl rfl
  | some intensity =>
    obtain ⟨number, rfl, fits⟩ := tabular.intensity intensity given
    exact .inr ⟨number, rfl, fits⟩

theorem Tabular.writable (tabular : rule.Tabular) :
    ∀ entry ∈ rule.tableEntries, Toml.Writable Toml.nestingLimit entry.2 := by
  have priority := writable_integer tabular.priority
  rw [tableEntries, List.forall_mem_append]
  constructor
  · simp only [List.forall_mem_cons]
    exact ⟨.text _, .text _, .text _, priority, .text _, List.forall_mem_nil _⟩
  · rcases tabular.cases with absent | ⟨number, given, fits⟩
    · rw [absent]
      exact List.forall_mem_nil _
    · rw [given]
      exact List.forall_mem_singleton.mpr (writable_integer fits)

theorem nodup_tableEntries (rule : Rule) : (rule.tableEntries.map Prod.fst).Nodup := by
  rw [tableEntries]
  cases rule.intensity.bind wholeValue? <;> simp

/-- The table of a rule is read as the rule. -/
theorem Tabular.ofToml_table (tabular : rule.Tabular) :
    ofToml (.table rule.tableEntries) = .ok rule := by
  obtain ⟨name, description, condition, priority, action, intensity⟩ := rule
  rcases tabular.cases with absent | ⟨number, given, -⟩
  · cases absent
    rfl
  · cases given
    rfl

theorem mapM_ofToml (tabular : ∀ rule ∈ rules, rule.Tabular) :
    (rules.map fun rule => Toml.Value.table rule.tableEntries).mapM ofToml = .ok rules := by
  induction rules with
  | nil => rfl
  | cons rule rest ih =>
    rw [List.map_cons, List.mapM_cons, (tabular rule (.head _)).ofToml_table,
      ih fun rule member => tabular rule (.tail _ member)]
    rfl

/-- Rules that are written in tables are read back in the same order. -/
theorem records_tablesText {comments : List String}
    (plain : ∀ comment ∈ comments, ∀ char ∈ comment.toList, Toml.isPlain char = true)
    (tabular : ∀ rule ∈ rules, rule.Tabular) :
    records (tablesText comments rules) .toml = .ok rules := by
  have writable : ∀ entries ∈ rules.map tableEntries, ∀ entry ∈ entries,
      Toml.Writable Toml.nestingLimit entry.2 :=
    List.forall_mem_map.mpr fun rule member => (tabular rule member).writable
  have distinct : ∀ entries ∈ rules.map tableEntries, (entries.map Prod.fst).Nodup :=
    List.forall_mem_map.mpr fun rule _ => nodup_tableEntries rule
  rw [records, tablesText, tablesRows, Toml.read_elementsRows "rule" plain writable distinct]
  cases rules with
  | nil => rfl
  | cons rule rest =>
    have tables := mapM_ofToml tabular
    rw [List.map_cons] at tables
    simpa [Toml.arrayEntries, Except.mapError, bind, Except.bind, Function.comp_def] using tables

/-- Complete rules that are written in tables are read in the order in which they are applied. -/
theorem readRules_tablesText {comments : List String}
    (plain : ∀ comment ∈ comments, ∀ char ∈ comment.toList, Toml.isPlain char = true)
    (tabular : ∀ rule ∈ rules, rule.Tabular) (complete : ∀ rule ∈ rules, rule.Complete) :
    readRules (tablesText comments rules) .toml = .ok (byPriority rules) :=
  readRules_of_complete (records_tablesText plain tabular) complete

end Tables

/-! ## The bundled rules -/

theorem tabular_ofPercent {name description condition action : String} {priority percent : Int}
    (priorityFits : fitsWord priority = true) (percentFits : fitsWord percent = true) :
    (ofPercent name description condition priority action percent).Tabular where
  priority := priorityFits
  intensity := by
    rintro _ ⟨⟩
    exact ⟨percent, rfl, percentFits⟩

theorem tabular_bundled : ∀ rule ∈ bundled, rule.Tabular := by
  simp only [bundled, List.forall_mem_cons]
  exact ⟨tabular_ofPercent rfl rfl, tabular_ofPercent rfl rfl, tabular_ofPercent rfl rfl,
    tabular_ofPercent rfl rfl, tabular_ofPercent rfl rfl, tabular_ofPercent rfl rfl,
    List.forall_mem_nil _⟩

/-- The comments in front of the bundled rules. -/
def bundledComments : List String := [
  " Street lighting rule set",
  "",
  " Lower priority value wins when several rules fire.",
  " Conditions may use time (hour of day), light (0..1) and weather."
]

theorem bundledLines_eq :
    bundledLines = (tablesRows bundledComments bundled).map String.ofList := by
  decide +kernel

theorem bundledDocument_eq : bundledDocument = tablesText bundledComments bundled := by
  rw [← String.toList_inj, bundledDocument, tablesText, String.toList_join, String.toList_ofList,
    bundledLines_eq]
  simp [Toml.rowsChars, List.flatMap_map]

/-- The document with the bundled rules is read as these rules. -/
theorem readRules_bundledDocument : readRules bundledDocument .toml = .ok bundled := by
  have plain : ∀ comment ∈ bundledComments, ∀ char ∈ comment.toList,
      Toml.isPlain char = true := by
    have all : (bundledComments.all fun comment => comment.toList.all Toml.isPlain) = true := by
      decide +kernel
    simpa [List.all_eq_true] using all
  have faultless : firstFault? 1 bundled = none := by decide +kernel
  have complete := firstFault?_eq_none_iff.mp faultless
  have sorted : byPriority bundled = bundled :=
    List.mergeSort_of_pairwise (by decide +kernel)
  rw [bundledDocument_eq, readRules_tablesText plain tabular_bundled complete, sorted]

end Rule

namespace RuleSource

/-- The source of the bundled rules holds the rules of their document. -/
theorem bundled_eq {m : Type → Type} [Pure m] :
    (readRules Rule.bundledDocument .toml).map inMemory = .ok (bundled : RuleSource m) := by
  rw [Rule.readRules_bundledDocument]
  rfl

end RuleSource

end Lamplight
