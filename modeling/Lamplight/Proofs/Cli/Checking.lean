import Lamplight.Cli.Session
import Lamplight.Proofs.Engine.Trace
import Lamplight.Proofs.Files.Tree
import Lamplight.Proofs.Rule.Tables

/-!
# Checks ahead of use

A rule is checked without a sample, and an engine finds out about it on every sample.  Both go by
the condition alone, so the events of an evaluation about conditions that are none are the failing
checks, in the same order, on every sample; the command that checks rules counts them.  Main
statement: `Rule.Check.agrees_with_evaluation`.
-/

namespace Lamplight

namespace Rule.Check

variable {rule : Rule} {rules : List Rule} {sample : Sample}

/-- The failed check that an event stands for. -/
def ofEvent? : Event → Option Check
  | .malformed rule error => some ⟨rule.name, rule.condition, some error⟩
  | _ => none

/-- The checks of some rules that fail, in the order of the rules. -/
def failing (rules : List Rule) : List Check :=
  (rules.map ofRule).filter fun check => !check.isValid

theorem isValid_ofRule_eq_false_iff :
    (ofRule rule).isValid = false ↔ ∃ error, Condition.parse rule.condition = .error error := by
  rw [isValid, ofRule]
  cases Condition.parse rule.condition <;> simp

/-- The event of a rule stands for its check, if that fails. -/
theorem bind_ofEvent? (rule : Rule) (sample : Sample) :
    (Event.ofRule? sample rule).bind ofEvent? =
      if (ofRule rule).isValid then none else some (ofRule rule) := by
  rw [Event.ofRule?, Rule.effect, isValid, ofRule]
  cases Condition.parse rule.condition with
  | error error => rfl
  | ok condition => cases holds : condition.holds sample <;> simp [holds, ofEvent?]

/-- The failing checks are what the events on any sample tell, in the same order. -/
theorem filterMap_ofEvent? (rules : List Rule) (sample : Sample) :
    (Event.ofRules sample rules).filterMap ofEvent? = failing rules := by
  rw [Event.ofRules, List.filterMap_filterMap, failing]
  induction rules with
  | nil => rfl
  | cons rule rules ih =>
    rw [List.filterMap_cons, bind_ofEvent?, List.map_cons, List.filter_cons, ih]
    cases (ofRule rule).isValid <;> rfl

theorem length_filter_isMalformed (events : List Event) :
    (events.filter Event.isMalformed).length = (events.filterMap ofEvent?).length := by
  induction events with
  | nil => rfl
  | cons event events ih =>
    cases event with
    | fuzzified | activated => exact ih
    | malformed => exact congrArg Nat.succ ih

/-- An evaluation on any sample has as many events about malformed conditions as checks fail. -/
theorem length_malformed_trace (categories : Categories) (sample : Sample) (rules : List Rule) :
    ((Event.trace categories sample (.ok rules)).filter Event.isMalformed).length =
      (failing rules).length := by
  rw [length_filter_isMalformed, Event.trace, List.filterMap_cons_none rfl, filterMap_ofEvent?]

end Rule.Check

/-! ## Journals -/

/-- The same source for an engine with a journal. -/
def RuleSource.withJournal {m : Type → Type} [Monad m] (source : RuleSource m) :
    RuleSource (StateT Journal m) where
  fetch := StateT.lift source.fetch
  description := source.description

/-- An engine that records all events in a journal. -/
def Engine.journaling {m : Type → Type} [Monad m] (categories : Categories)
    (source : RuleSource m) : Engine (StateT Journal m) where
  categories := categories
  source := source.withJournal
  sink := .journal

section Journaling

variable {m : Type → Type} [Monad m] [LawfulMonad m]

/-- An evaluation adds its trace to the journal. -/
theorem Engine.run_evaluate_journaling (categories : Categories) (source : RuleSource m)
    (sample : Sample) (journal : Journal) :
    ((Engine.journaling categories source).evaluate sample).run journal = do
      let answer ← source.fetch
      return (answer.map (.ofRules categories sample),
        ⟨journal.events ++ Event.trace categories sample answer⟩) := by
  have recorded : ((Sink.journal (m := StateT Journal m)).record
      (.fuzzified sample (categories.fuzzify sample))).run journal =
        pure ((), journal.record (.fuzzified sample (categories.fuzzify sample))) := rfl
  rw [Engine.evaluate_eq]
  simp only [Engine.journaling, StateT.run_bind, recorded, pure_bind, RuleSource.withJournal,
    StateT.run_lift, bind_assoc]
  congr 1
  funext answer
  cases answer with
  | error failure => simp [Except.map, Event.trace, Journal.record]
  | ok rules =>
    simp only [StateT.run_bind, Journal.run_forM_record, pure_bind, StateT.run_pure]
    simp [Except.map, Event.trace, Journal.record]

end Journaling

/-! ## The command that checks rules -/

namespace Cli

section Lawful

variable {m : Type → Type} [Monad m] [LawfulMonad m]

/-- The command tells how many checks fail, if any. -/
theorem run_runCheck (host : Host m) (settings : Settings) (path : Option Path) :
    (runCheck host settings path).run = do
      match ← (ruleSource host settings path).fetch with
      | .error failure =>
        return .error (.noRules (ruleSource host settings path).description failure)
      | .ok rules =>
        host.print s!"{(ruleSource host settings path).description}: {rules.length} rules"
        rules.forM fun rule => host.print (checkLine rule)
        if (Rule.Check.failing rules).length = 0 then return .ok .success
        else
          host.report s!"{(Rule.Check.failing rules).length} malformed condition(s)"
          return .ok .failure := by
  rw [runCheck, Action.run_lift_bind]
  congr 1
  funext answer
  cases answer with
  | error failure => rfl
  | ok rules =>
    have count : (rules.map Rule.Check.ofRule).countP (fun check => !check.isValid) =
        (Rule.Check.failing rules).length := List.countP_eq_length_filter
    dsimp only
    rw [Action.run_lift_bind]
    congr 1
    funext _
    rw [ExceptT.run_bind, Action.run_forM_lift, bind_assoc]
    congr 1
    funext _
    rw [pure_bind, count]
    by_cases none : (Rule.Check.failing rules).length = 0
    · simp [none]
    · rw [if_neg none, if_pos (Nat.pos_of_ne_zero none)]
      exact Action.run_lift_bind _ _

end Lawful

end Cli

/-! ## The whole agreement -/

theorem Rule.Check.failing_eq_nil_iff {rules : List Rule} : (failing rules).length = 0 ↔
    ∀ (categories : Categories) (sample : Sample),
      ∀ event ∈ Event.trace categories sample (.ok rules), event.isMalformed = false := by
  constructor
  · intro none categories sample event member
    rw [← length_malformed_trace categories sample, List.length_eq_zero_iff,
      List.filter_eq_nil_iff] at none
    exact Bool.eq_false_iff.mpr (none event member)
  · intro never
    rw [← length_malformed_trace .standard ⟨0, 0, ""⟩, List.length_eq_zero_iff,
      List.filter_eq_nil_iff]
    exact fun event member => Bool.eq_false_iff.mp (never _ _ event member)

/-- Rules are checked one by one in their order.  Every engine, on every sample, records the events
of the rules it fetched, and those about conditions that are none are the failing checks, in the
same order and with the same errors; a rule that passes its check is never malformed, and one that
fails never fires.  The command that checks rules reports as many malformed conditions as an
evaluation of the same rules has events about them, and it succeeds exactly when no evaluation can
have such an event. -/
theorem Rule.Check.agrees_with_evaluation :
    (∀ rules : List Rule, ((rules.map ofRule).map fun check => (check.name, check.condition)) =
      rules.map fun rule => (rule.name, rule.condition)) ∧
    (∀ {m : Type → Type} [Monad m] [LawfulMonad m] (engine : Engine m) (sample : Sample),
      engine.evaluate sample = do
        engine.sink.record (.fuzzified sample (engine.categories.fuzzify sample))
        match ← engine.source.fetch with
        | .error failure => return .error failure
        | .ok rules =>
          forM (Event.ofRules sample rules) engine.sink.record
          return .ok (.ofRules engine.categories sample rules)) ∧
    (∀ (rules : List Rule) (sample : Sample), (Event.ofRules sample rules).filterMap ofEvent? =
      (rules.map ofRule).filter fun check => !check.isValid) ∧
    (∀ (rule : Rule) (sample : Sample),
      ((ofRule rule).isValid = true →
        ∀ error, Event.ofRule? sample rule ≠ some (.malformed rule error)) ∧
      ((ofRule rule).isValid = false → rule.fires sample = false)) ∧
    ∀ {σ : Type} {n : Type → Type} [Monad n] [LawfulMonad n] (host : Cli.Host (StateT σ n))
      (settings : Settings) (path : Option Path) (rules : List Rule) (state : σ),
      (Cli.ruleSource host settings path).fetch.run state = pure (.ok rules, state) →
      ∃ malformed : Nat,
        (Cli.runCheck host settings path).run.run state = (do
          host.print s!"{(Cli.ruleSource host settings path).description}: {rules.length} rules"
          rules.forM fun rule => host.print (Cli.checkLine rule)
          if malformed = 0 then return .ok .success
          else
            host.report s!"{malformed} malformed condition(s)"
            return .ok .failure : StateT σ n (Except Cli.CommandError Cli.ExitStatus)).run state ∧
        (malformed = 0 ↔ ∀ (categories : Categories) (sample : Sample),
          ∀ event ∈ Event.trace categories sample (.ok rules), event.isMalformed = false) ∧
        ∀ (categories : Categories) (sample : Sample) (journal : Journal) (later : σ),
          (Cli.ruleSource host settings path).fetch.run later = pure (.ok rules, later) →
          (((Engine.journaling categories (Cli.ruleSource host settings path)).evaluate sample).run
            journal).run later =
              pure ((.ok (.ofRules categories sample rules),
                ⟨journal.events ++ Event.trace categories sample (.ok rules)⟩), later) ∧
          ((Event.trace categories sample (.ok rules)).filter Event.isMalformed).length =
            malformed := by
  refine ⟨fun rules => ?_, Engine.evaluate_eq, filterMap_ofEvent?, fun rule sample => ?_, ?_⟩
  · rw [List.map_map]
    rfl
  · constructor
    · intro valid error malformed
      have failed := Event.ofRule?_eq_malformed_iff.mp malformed
      rw [isValid_ofRule_eq_false_iff.mpr ⟨error, failed⟩] at valid
      cases valid
    · intro invalid
      obtain ⟨error, failed⟩ := isValid_ofRule_eq_false_iff.mp invalid
      rw [Rule.fires, Rule.effect_eq_malformed_iff.mpr failed]
      rfl
  · intro σ n _ _ host settings path rules state fetched
    refine ⟨(failing rules).length, ?_, failing_eq_nil_iff, ?_⟩
    · rw [Cli.run_runCheck, StateT.run_bind, fetched, pure_bind]
    · intro categories sample journal later stillFetched
      refine ⟨?_, length_malformed_trace categories sample rules⟩
      rw [Engine.run_evaluate_journaling, StateT.run_bind, stillFetched, pure_bind]
      rfl

/-- In a session with a file of three rules, one of which has a condition that ends too early, one
malformed condition is reported, and an evaluation has one event about it. -/
theorem Rule.Check.agrees_with_evaluation_broken :
    let path : Path := ⟨"rules.toml"⟩
    let host := Cli.Session.host (fun _ => none) 0
    let source := Cli.ruleSource host .standard (some path)
    let rules := [Engine.broken, Engine.fog, Engine.rain]
    ∃ tree, (FileTree.bare ["home"]).writeText path
        (tablesText [] [Engine.rain, Engine.broken, Engine.fog]) = .ok tree ∧
      source.fetch.run tree = pure (.ok rules, tree) ∧
      (Cli.runCheck host .standard (some path)).run.run tree = (do
        host.print s!"{source.description}: {rules.length} rules"
        rules.forM fun rule => host.print (Cli.checkLine rule)
        host.report s!"{1} malformed condition(s)"
        return .ok .failure : Cli.Session (Except Cli.CommandError Cli.ExitStatus)).run tree ∧
      ((Event.trace .standard ⟨21, 0.25, "rain"⟩ (.ok rules)).filter
        Event.isMalformed).length = 1 := by
  intro path host source rules
  have followed : (FileTree.bare ["home"]).follow path = .ok ["home", "rules.toml"] := by
    decide +kernel
  obtain ⟨tree, written⟩ : ∃ tree, (FileTree.bare ["home"]).writeText path
      (tablesText [] [Engine.rain, Engine.broken, Engine.fog]) = .ok tree :=
    ⟨_, FileTree.writeText_eq_ok_iff.mpr ⟨_, followed, nofun, by decide +kernel, rfl⟩⟩
  have faultless : firstFault? 1 [Engine.rain, Engine.broken, Engine.fog] = none := by
    decide +kernel
  have complete := firstFault?_eq_none_iff.mp faultless
  have tabular : ∀ rule ∈ [Engine.rain, Engine.broken, Engine.fog], rule.Tabular := by
    simp only [List.forall_mem_cons]
    exact ⟨⟨rfl, nofun⟩, ⟨rfl, nofun⟩, ⟨rfl, nofun⟩, List.forall_mem_nil _⟩
  have sorted : byPriority [Engine.rain, Engine.broken, Engine.fog] = rules := by
    simp [byPriority, List.mergeSort, rules, Engine.rain, Engine.broken, Engine.fog]
  have fetched : source.fetch.run tree = pure (.ok rules, tree) := by
    have asked : source.fetch.run tree =
        pure (RuleSource.ofContent path (.ofPath path) (tree.readText path), tree) := rfl
    have format : RuleFormat.ofPath path = .toml := by decide +kernel
    rw [asked, format, FileTree.readText_of_writeText written, RuleSource.ofContent,
      readRules_tablesText (List.forall_mem_nil _) tabular complete, sorted]
    rfl
  have one : ((Event.trace .standard ⟨21, 0.25, "rain"⟩ (.ok rules)).filter
      Event.isMalformed).length = 1 := by
    decide +kernel
  obtain ⟨malformed, checked, -, evaluated⟩ :=
    Rule.Check.agrees_with_evaluation.2.2.2.2 host .standard (some path) rules tree fetched
  have counted := (evaluated .standard ⟨21, 0.25, "rain"⟩ .empty tree fetched).2
  cases one.symm.trans counted
  exact ⟨tree, written, fetched, checked, one⟩

end Lamplight
