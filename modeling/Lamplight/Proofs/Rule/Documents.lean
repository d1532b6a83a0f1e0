import Lamplight.Proofs.Rule.Order
import Lamplight.Proofs.Scanning
import Lamplight.Rule.Document

/-!
# Documents are read as a whole

A document gives all of its rules or none.  The first rule without a name or without an action makes
the whole document useless, whatever stands before or behind it, and its position is counted in the
document and not in the order in which rules are applied.  There are no rules only where there are
no records.  Main statement: `Rule.document_all_or_nothing`.
-/

namespace Lamplight

namespace Text

/-- A text that is empty or holds white space only. -/
def Blank (text : String) : Prop :=
  ∀ char ∈ text.toList, isBlank char = true

theorem isBlankText_iff {text : String} : isBlankText text = true ↔ Blank text :=
  List.all_eq_true

-- by the list of its characters, where a search for an instance may try every character there is
instance (text : String) : Decidable (Blank text) :=
  decidable_of_iff _ isBlankText_iff

end Text

namespace Rule

open Text (Blank isBlankText_iff)

/-- A rule with a name and an action. -/
structure Complete (rule : Rule) : Prop where
  named : ¬Blank rule.name
  acting : ¬Blank rule.action

variable {position : Nat} {rule : Rule} {rules : List Rule} {fault : Fault}

/-! ## The first fault -/

theorem faultAt?_eq_none_iff : rule.faultAt? position = none ↔ rule.Complete := by
  rw [faultAt?]
  split
  · next blank =>
    rw [isBlankText_iff] at blank
    exact ⟨nofun, fun complete => absurd blank complete.named⟩
  · next named =>
    rw [isBlankText_iff] at named
    split
    · next blank =>
      rw [isBlankText_iff] at blank
      exact ⟨nofun, fun complete => absurd blank complete.acting⟩
    · next acting =>
      rw [isBlankText_iff] at acting
      exact ⟨fun _ => ⟨named, acting⟩, fun _ => rfl⟩

/-- A rule has one fault at most: its action only counts if it has a name. -/
theorem faultAt?_eq_some_iff : rule.faultAt? position = some fault ↔
    Blank rule.name ∧ fault = .unnamed position ∨
      ¬Blank rule.name ∧ Blank rule.action ∧ fault = .idle rule.name := by
  simp only [faultAt?, isBlankText_iff]
  split
  · next blank => simp [blank, eq_comm]
  · next named =>
    split
    · next blank => simp [named, blank, eq_comm]
    · next acting => simp [named, acting]

theorem firstFault?_eq_none_iff :
    firstFault? position rules = none ↔ ∀ rule ∈ rules, rule.Complete := by
  induction rules generalizing position with
  | nil => simp [firstFault?]
  | cons rule rest ih =>
    rw [firstFault?, Option.or_eq_none_iff, faultAt?_eq_none_iff, ih, List.forall_mem_cons]

/-- The fault of a list is that of the first rule that has one, with its position in the list. -/
theorem firstFault?_eq_some (found : firstFault? position rules = some fault) :
    ∃ before rule after, rules = before ++ rule :: after ∧
      (∀ earlier ∈ before, earlier.Complete) ∧
      rule.faultAt? (position + before.length) = some fault := by
  induction rules generalizing position with
  | nil => cases found
  | cons first rest ih =>
    rw [firstFault?, Option.or_eq_some_iff] at found
    rcases found with here | ⟨complete, later⟩
    · exact ⟨[], first, rest, rfl, List.forall_mem_nil _, here⟩
    · obtain ⟨before, rule, after, rfl, each, there⟩ := ih later
      refine ⟨first :: before, rule, after, rfl, ?_, ?_⟩
      · exact List.forall_mem_cons.mpr ⟨faultAt?_eq_none_iff.mp complete, each⟩
      · rwa [List.length_cons, Nat.add_comm before.length, ← Nat.add_assoc]

end Rule

/-! ## What is made of the records -/

section Documents

open Rule

variable {content : String} {format : RuleFormat} {rules : List Rule}

theorem readRules_of_undecoded {fault : DocumentFault}
    (undecoded : records content format = .error fault) :
    readRules content format = .error (.ofDocumentFault format fault) := by
  rw [readRules, undecoded]
  rfl

/-- What becomes of records depends on the first fault in them. -/
theorem readRules_of_decoded (decoded : records content format = .ok rules) :
    readRules content format = match firstFault? 1 rules with
      | some fault => .error (.ofRuleFault fault)
      | none => .ok (byPriority rules) := by
  rw [readRules, decoded]
  rfl

theorem readRules_of_complete (decoded : records content format = .ok rules)
    (complete : ∀ rule ∈ rules, rule.Complete) :
    readRules content format = .ok (byPriority rules) := by
  rw [readRules_of_decoded decoded, firstFault?_eq_none_iff.mpr complete]

theorem readRules_of_fault {fault : Fault} (decoded : records content format = .ok rules)
    (found : firstFault? 1 rules = some fault) :
    readRules content format = .error (.ofRuleFault fault) := by
  rw [readRules_of_decoded decoded, found]

/-- A document is refused for its form or for a rule that is not complete, or it is read. -/
theorem readRules_cases (content : String) (format : RuleFormat) :
    (∃ fault, records content format = .error fault ∧
      readRules content format = .error (.ofDocumentFault format fault)) ∨
    (∃ fault, readRules content format = .error (.ofRuleFault fault)) ∨
    ∃ rules, records content format = .ok rules ∧
      readRules content format = .ok (byPriority rules) := by
  cases decoded : records content format with
  | error fault => exact .inl ⟨fault, rfl, readRules_of_undecoded decoded⟩
  | ok rules =>
    cases found : firstFault? 1 rules with
    | some fault => exact .inr (.inl ⟨fault, readRules_of_fault decoded found⟩)
    | none =>
      have complete := firstFault?_eq_none_iff.mp found
      exact .inr (.inr ⟨rules, rfl, readRules_of_complete decoded complete⟩)

/-- A document is refused under one code, whatever is wrong with it. -/
theorem code_of_readRules {cause : Failure} (refused : readRules content format = .error cause) :
    cause.code = .invalidRecord := by
  rcases readRules_cases content format with ⟨_, _, result⟩ | ⟨_, result⟩ | ⟨_, _, result⟩
  · cases result.symm.trans refused
    rfl
  · cases result.symm.trans refused
    rfl
  · cases result.symm.trans refused

/-- There are no rules to apply only where there are no records. -/
theorem records_of_readRules_nil (read : readRules content format = .ok []) :
    records content format = .ok [] := by
  rcases readRules_cases content format with ⟨_, _, result⟩ | ⟨_, result⟩ | ⟨rules, decoded, result⟩
  · cases result.symm.trans read
  · cases result.symm.trans read
  · have same := Except.ok.inj (result.symm.trans read)
    have none : rules.length = 0 := by rw [← length_byPriority, same, List.length_nil]
    rw [decoded, List.length_eq_zero_iff.mp none]

/-- A JSON document without records is an empty array. -/
theorem read_of_records_nil_json (empty : records content .json = .ok []) :
    Json.Source.read content = .ok (.array []) := by
  obtain ⟨source, read, empty⟩ := bind_eq_ok_iff.mp empty
  rw [mapError_eq_ok_iff] at read
  split at empty
  · rw [read, mapM_eq_ok_nil empty]
  · cases empty

/-- A TOML document without records has no list of them, or an empty one. -/
theorem read_of_records_nil_toml (empty : records content .toml = .ok []) :
    ∃ entries, Toml.read content = .ok entries ∧
      (entries.lookup "rule" = none ∨ entries.lookup "rule" = some (.array [])) := by
  obtain ⟨entries, read, empty⟩ := bind_eq_ok_iff.mp empty
  rw [mapError_eq_ok_iff] at read
  refine ⟨entries, read, ?_⟩
  split at empty
  · next absent => exact .inl absent
  · next items present =>
    rw [mapM_eq_ok_nil empty] at present
    exact .inr present
  · cases empty

end Documents

namespace Rule

open Text (Blank)

/-- The sorted list is the only one in the order of priorities that keeps the rules of each. -/
theorem eq_byPriority_iff {other rules : List Rule} : other = byPriority rules ↔
    Rearranges other rules ∧
      other.Pairwise fun left right => left.priority ≤ right.priority := by
  constructor
  · rintro rfl
    exact ⟨byPriority_rearranges rules, byPriority_pairwise rules⟩
  · rintro ⟨rearranges, sorted⟩
    refine eq_of_sameOrder sorted (byPriority_pairwise rules) ?_
    intro priority
    rw [rearranges.sameOrder, withPriority_byPriority]

/-- A document of complete rules gives all of them, in the order of their priorities and those of
one priority in the order of the document.  A document with a rule that lacks its name or its action
is refused because of the first such rule, which is told by its position in the document if it has
no name and else by its name.  What is no document of rules is refused under the name of the
format. -/
theorem document_all_or_nothing (content : String) (format : RuleFormat) :
    (∀ rules, records content format = .ok rules →
      ((∀ rule ∈ rules, ¬Blank rule.name ∧ ¬Blank rule.action) →
        ∃ sorted, readRules content format = .ok sorted ∧
          ∀ other, other = sorted ↔ Rearranges other rules ∧
            other.Pairwise fun left right => left.priority ≤ right.priority) ∧
      ((∃ rule ∈ rules, Blank rule.name ∨ Blank rule.action) →
        ∃ before rule after failure, rules = before ++ rule :: after ∧
          (∀ earlier ∈ before, ¬Blank earlier.name ∧ ¬Blank earlier.action) ∧
          readRules content format = .error failure ∧ failure.code = .invalidRecord ∧
          (Blank rule.name ∧
              failure.message = s!"rule #{before.length + 1} has an empty name" ∨
            ¬Blank rule.name ∧ Blank rule.action ∧
              failure.message = s!"rule '{rule.name}' has no action"))) ∧
    ∀ fault, records content format = .error fault →
      ∃ failure, readRules content format = .error failure ∧ failure.code = .invalidRecord ∧
        failure.field? "format" = some format.name := by
  refine ⟨?_, ?_⟩
  · intro rules decoded
    constructor
    · intro each
      refine ⟨byPriority rules, readRules_of_complete decoded ?_, fun other => eq_byPriority_iff⟩
      intro rule member
      exact ⟨(each rule member).1, (each rule member).2⟩
    · rintro ⟨useless, member, blank⟩
      cases found : firstFault? 1 rules with
      | none =>
        have complete := firstFault?_eq_none_iff.mp found useless member
        exact absurd blank (not_or.mpr ⟨complete.named, complete.acting⟩)
      | some fault =>
        obtain ⟨before, rule, after, split, each, faulty⟩ := firstFault?_eq_some found
        refine ⟨before, rule, after, _, split, ?_, readRules_of_fault decoded found, rfl, ?_⟩
        · intro earlier isEarlier
          exact ⟨(each earlier isEarlier).named, (each earlier isEarlier).acting⟩
        · rw [Nat.add_comm 1] at faulty
          rcases faultAt?_eq_some_iff.mp faulty with ⟨unnamed, rfl⟩ | ⟨named, idle, rfl⟩
          · exact .inl ⟨unnamed, rfl⟩
          · exact .inr ⟨named, idle, rfl⟩
  · intro fault undecoded
    exact ⟨_, readRules_of_undecoded undecoded, rfl, Ordered.get?_insert_self _ _ _⟩

/-- A document whose records are shown in part is one of records. -/
theorem records_of_shown {α : Type} {content : String} {format : RuleFormat} {part : Rule → α}
    {parts : List α}
    (shown : (records content format).toOption.map (List.map part) = some parts) :
    ∃ rules, records content format = .ok rules ∧ rules.map part = parts := by
  cases decoded : records content format with
  | error fault =>
    rw [decoded] at shown
    cases shown
  | ok rules =>
    rw [decoded] at shown
    exact ⟨rules, rfl, Option.some.inj shown⟩

/-- A document whose refusal is shown is refused. -/
theorem records_of_refused {content : String} {format : RuleFormat} {fault : DocumentFault}
    (refused : (match records content format with
      | .error fault => some fault
      | .ok _ => none) = some fault) :
    records content format = .error fault := by
  cases decoded : records content format with
  | error other =>
    rw [decoded] at refused
    cases refused
    rfl
  | ok rules =>
    rw [decoded] at refused
    cases refused

/-- Three records, of which the second has the lowest number. -/
def threeRecords (name action : String) : String :=
  "[[\"dusk\", \"\", \"light < 1\", 2, \"dim\", [80]], [\"" ++ name ++
    "\", \"\", \"\", 1, \"on\"], [\"fog\", \"\", \"\", 2, \"" ++ action ++ "\"]]"

/-- With names and actions all three are read.  Without the second name they are refused because of
it, although the third action is missing as well and the second rule would go first. -/
theorem document_all_or_nothing_of_three :
    (∃ rules sorted, rules.map Rule.name = ["dusk", "night", "fog"] ∧
      readRules (threeRecords "night" "glow") .json = .ok sorted ∧ Rearranges sorted rules) ∧
    (∃ failure, readRules (threeRecords "\u3000 " "") .json = .error failure ∧
      failure.code = .invalidRecord ∧ failure.message = "rule #2 has an empty name") ∧
    ∃ failure, readRules "[[rule]]\nname = 'x'" .toml = .error failure ∧
      failure.code = .invalidRecord ∧ failure.field? "format" = some "TOML" := by
  refine ⟨?_, ?_, ?_⟩
  · obtain ⟨rules, decoded, shown⟩ : ∃ rules,
        records (threeRecords "night" "glow") .json = .ok rules ∧
        (rules.map fun rule => (rule.name, rule.action)) =
          [("dusk", "dim"), ("night", "on"), ("fog", "glow")] :=
      records_of_shown (by decide +kernel)
    have complete : ∀ rule ∈ rules, ¬Blank rule.name ∧ ¬Blank rule.action := by
      have each : ∀ shown ∈ [("dusk", "dim"), ("night", "on"), ("fog", "glow")],
          ¬Blank shown.1 ∧ ¬Blank shown.2 := by
        decide
      rw [← shown, List.forall_mem_map] at each
      exact each
    obtain ⟨sorted, read, only⟩ :=
      ((document_all_or_nothing _ _).1 rules decoded).1 complete
    have names := congrArg (List.map Prod.fst) shown
    rw [List.map_map] at names
    exact ⟨rules, sorted, names, read, ((only sorted).mp rfl).1⟩
  · obtain ⟨rules, decoded, shown⟩ : ∃ rules,
        records (threeRecords "\u3000 " "") .json = .ok rules ∧
        rules.map Rule.name = ["dusk", "\u3000 ", "fog"] :=
      records_of_shown (by decide +kernel)
    have blank : ∃ rule ∈ rules, Blank rule.name ∨ Blank rule.action := by
      have member : "\u3000 " ∈ rules.map Rule.name := by simp [shown]
      obtain ⟨rule, isRule, named⟩ := List.mem_map.mp member
      exact ⟨rule, isRule, .inl (named ▸ by decide)⟩
    obtain ⟨_, _, _, failure, _, _, refused, code, _⟩ :=
      ((document_all_or_nothing _ _).1 rules decoded).2 blank
    have told : (match readRules (threeRecords "\u3000 " "") .json with
        | .error failure => failure.message
        | .ok _ => "") = "rule #2 has an empty name" := by
      decide +kernel
    rw [refused] at told
    exact ⟨failure, refused, code, told⟩
  · have undecoded : records "[[rule]]\nname = 'x'" .toml =
        .error (.record (.missing "condition")) :=
      records_of_refused (by decide +kernel)
    exact (document_all_or_nothing _ _).2 _ undecoded

end Rule

end Lamplight
