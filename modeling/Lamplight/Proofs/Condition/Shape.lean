import Lamplight.Proofs.Condition.RoundTrip
import Lamplight.Proofs.Condition.Covering
import Lamplight.Proofs.Decimal.Undefined

/-!
# The shape of the conditions that are read

A condition that was read from a source joins at least two operands wherever it joins any, compares
numbers with numbers and the weather with a text, and has no number in it that is none.  So no
comparison in it has sides of two kinds, for which there would be no sensible answer.

However long the source is, the condition is not deep: a level of groups adds an alternative and a
conjunction to a path at most.  What is computed by recursion on conditions therefore gets by with a
fixed number of calls inside one another.
-/

namespace Lamplight

open Decimal

open Token (NestedWithin)

/-! ## Comparisons of two kinds -/

namespace Sample

/-- The answer of a comparison, if both sides are numbers or both are words. -/
def compares? (sample : Sample) : Reading → Comparator → Literal → Option Bool
  | .time, comparator, .number value => some (comparator.holds sample.time value)
  | .light, comparator, .number value => some (comparator.holds sample.light value)
  | .weather, comparator, .text value => some (comparator == .equal && sample.weather == value)
  | _, _, _ => none

/-- The answer of a range, if the reading is a number. -/
def within? (sample : Sample) : Reading → Float → Float → Option Bool
  | .time, low, high => some (low ≤ sample.time && sample.time ≤ high)
  | .light, low, high => some (low ≤ sample.light && sample.light ≤ high)
  | .weather, _, _ => none

/-- What has no answer does not hold. -/
theorem compares_eq_getD (sample : Sample) (reading : Reading) (comparator : Comparator)
    (literal : Literal) : sample.compares reading comparator literal =
      (sample.compares? reading comparator literal).getD false := by
  cases reading <;> cases literal <;> rfl

theorem within_eq_getD (sample : Sample) (reading : Reading) (low high : Float) :
    sample.within reading low high = (sample.within? reading low high).getD false := by
  cases reading <;> rfl

end Sample

namespace Condition

/-! ## Paths -/

/-- The operands of a condition. -/
def parts : Condition → List Condition
  | .all parts | .any parts => parts
  | _ => []

@[simp] theorem parts_tree (joint : Joint) (parts : List Condition) :
    (joint.tree parts).parts = parts := by
  cases joint <;> rfl

/-- Conditions from a first one downwards, each an operand of the one before. -/
inductive Descends : Condition → List Condition → Prop
  | root (condition : Condition) : Descends condition [condition]
  | step {condition part : Condition} {path : List Condition} (member : part ∈ condition.parts) :
      Descends part path → Descends condition (condition :: path)

/-- What operands inherit is true on every path. -/
theorem Descends.forall_mem {property : Condition → Prop}
    (inherits : ∀ condition, property condition → ∀ part ∈ condition.parts, property part)
    {condition : Condition} {path : List Condition} (isPath : Descends condition path)
    (here : property condition) : ∀ node ∈ path, property node := by
  induction isPath with
  | root => exact List.forall_mem_singleton.mpr here
  | step member _ ih => exact List.forall_mem_cons.mpr ⟨here, ih (inherits _ here _ member)⟩

/-- The sides of a comparison go together, numbers are numbers, and two operands at least are
joined. -/
def Proper : Condition → Prop
  | .comparison .weather comparator literal => comparator = .equal ∧ ∃ word, literal = .text word
  | .comparison _ _ literal => ∃ value, literal = .number value ∧ value.isNaN = false
  | .between reading low high =>
    reading.isNumeric = true ∧ low.isNaN = false ∧ high.isNaN = false
  | .all parts | .any parts => 2 ≤ parts.length

/-! ## What is computed by recursion -/

section Recursion

variable {α : Type} {step : Condition → List α → α} {condition : Condition}

/-- What a step makes of a condition and the results for its operands, by at most so many calls
inside one another. -/
def fold? (step : Condition → List α → α) : Nat → Condition → Option α
  | 0, _ => none
  | calls + 1, condition => (condition.parts.mapM (fold? step calls)).map (step condition)

theorem mapM_eq_some {β γ : Type} {image : β → Option γ} {result : β → γ} {values : List β}
    (each : ∀ value ∈ values, image value = some (result value)) :
    values.mapM image = some (values.map result) := by
  induction values with
  | nil => rfl
  | cons value rest ih =>
    rw [List.forall_mem_cons] at each
    rw [List.mapM_cons, each.1, ih each.2]
    rfl

/-- As many calls are enough as there are conditions on a path. -/
theorem fold?_eq_some (value : Condition → α) {calls : Nat}
    (short : ∀ path, Descends condition path → path.length ≤ calls)
    (computes : ∀ path, Descends condition path → ∀ node ∈ path,
      value node = step node (node.parts.map value)) :
    fold? step calls condition = some (value condition) := by
  induction calls generalizing condition with
  | zero => exact absurd (short _ (.root condition)) (by simp)
  | succ calls ih =>
    have each : ∀ part ∈ condition.parts, fold? step calls part = some (value part) := by
      intro part member
      refine ih ?_ ?_
      · intro path isPath
        exact Nat.le_of_succ_le_succ (short _ (.step member isPath))
      · intro path isPath node inPath
        exact computes _ (.step member isPath) node (List.mem_cons_of_mem condition inPath)
    rw [fold?, mapM_eq_some each, Option.map_some,
      ← computes _ (.root condition) condition (List.mem_singleton_self condition)]

end Recursion

/-- The answer of a condition, if all its operands have one and its own sides go together. -/
def answerStep (sample : Sample) : Condition → List (Option Bool) → Option Bool
  | .comparison reading comparator literal, _ => sample.compares? reading comparator literal
  | .between reading low high, _ => sample.within? reading low high
  | .all _, answers => (answers.mapM id).map (·.all id)
  | .any _, answers => (answers.mapM id).map (·.any id)

/-- The readings that a condition mentions, after those of its operands. -/
def mentionStep : Condition → List (List Reading) → List Reading
  | .comparison reading _ _, _ => [reading]
  | .between reading _ _, _ => [reading]
  | .all _, mentions | .any _, mentions => mentions.flatten

/-- The source form of operands that are joined, from the source form of each. -/
def joinTexts (joint : Joint) (parts : List Condition) (texts : List (List Char)) : List Char :=
  joint.separator.intercalate
    (List.zipWith (fun part text => enclose (joint.encloses part) text) parts texts)

/-- The source form of a condition, after those of its operands. -/
def charStep : Condition → List (List Char) → List Char
  | .all parts, texts => joinTexts .and parts texts
  | .any parts, texts => joinTexts .or parts texts
  | condition, _ => condition.chars

/-- A condition whose sides go together has an answer. -/
theorem Proper.answerStep_eq {sample : Sample} {condition : Condition} (proper : condition.Proper) :
    some (condition.holds sample) =
      answerStep sample condition (condition.parts.map fun part => some (part.holds sample)) := by
  have answers : ∀ parts : List Condition,
      (parts.map fun part => some (part.holds sample)).mapM id =
        some (parts.map (holds sample)) := by
    intro parts
    rw [List.mapM_map]
    exact List.mapM_pure
  cases condition with
  | comparison reading comparator literal =>
    rw [holds, Sample.compares_eq_getD, answerStep]
    cases reading with
    | weather =>
      obtain ⟨_, word, rfl⟩ := proper
      rfl
    | time | light =>
      obtain ⟨value, rfl, _⟩ := proper
      rfl
  | between reading low high =>
    rw [holds, Sample.within_eq_getD, answerStep]
    cases reading with
    | weather => cases proper.1
    | time | light => rfl
  | all operands => rw [answerStep, parts, answers, Option.map_some, holds_all, List.all_map]; rfl
  | any operands => rw [answerStep, parts, answers, Option.map_some, holds_any, List.any_map]; rfl

theorem mentionStep_eq (condition : Condition) :
    condition.mentions = mentionStep condition (condition.parts.map mentions) := by
  cases condition with
  | comparison reading _ _ => rw [mentions, mentionStep]
  | between reading _ _ => rw [mentions, mentionStep]
  | all operands => rw [mentions, mentionsOf_eq, mentionStep, parts, List.flatMap_def]
  | any operands => rw [mentions, mentionsOf_eq, mentionStep, parts, List.flatMap_def]

theorem chars_eq_joinTexts (joint : Joint) (operands : List Condition) :
    joint.chars operands = joinTexts joint operands (operands.map chars) := by
  induction operands with
  | nil => cases joint <;> rfl
  | cons part rest ih =>
    cases rest with
    | nil =>
      rw [Joint.chars_singleton]
      simp [joinTexts]
    | cons next others =>
      rw [joint.chars_cons part (List.cons_ne_nil next others), ih]
      simp [joinTexts, List.intercalate]

theorem charStep_eq (condition : Condition) :
    condition.chars = charStep condition (condition.parts.map chars) := by
  cases condition with
  | comparison _ _ _ => rfl
  | between _ _ _ => rfl
  | all operands => exact (Joint.and.chars_tree operands).trans (chars_eq_joinTexts .and operands)
  | any operands => exact (Joint.or.chars_tree operands).trans (chars_eq_joinTexts .or operands)

end Condition

/-! ## What the grammar derives -/

open Condition

theorem Compares.parts_eq {tree : Condition} {tokens : List Token}
    (compares : Compares tree tokens) : tree.parts = [] := by
  cases compares <;> rfl

/-- How many joined conditions a level of groups puts on a path, up to those of a joining word. -/
def Joint.rank : Joint → Nat
  | .and => 1
  | .or => 2

/-- How many conditions there can be on a path in a phrase, if groups are nested in it within a
limit. -/
def Phrase.pathBound (limit : Nat) : Phrase → Nat
  | .primary _ => 2 * limit + 1
  | .operands joint _ => 2 * limit + joint.rank
  | .joined joint _ => 2 * limit + joint.rank + 1

theorem Phrase.pathBound_operand (joint : Joint) (tree : Condition) (limit : Nat) :
    (joint.operand tree).pathBound limit = 2 * limit + joint.rank := by
  cases joint <;> rfl

namespace Derives

variable {phrase : Phrase} {tokens : List Token}

/-- Paths are short where groups are nested within a limit. -/
theorem length_le_pathBound (derived : Derives phrase tokens) {limit : Nat}
    (nested : NestedWithin limit tokens) :
    ∀ tree ∈ phrase.trees, ∀ path, Descends tree path → path.length ≤ phrase.pathBound limit := by
  induction derived generalizing limit with
  | comparison compares =>
    rw [Phrase.trees, List.forall_mem_singleton]
    intro path isPath
    cases isPath with
    | root => exact Nat.le_add_left 1 _
    | step member =>
      rw [compares.parts_eq] at member
      cases member
  | group inner ih =>
    obtain ⟨room, rfl, within⟩ := (Token.nestedWithin_group inner.balanced).mp nested
    exact ih within
  | last _ ih =>
    have bound := ih nested
    rwa [Phrase.trees_operand, Phrase.pathBound_operand] at bound
  | @more joint _ _ _ _ frontDerived _ frontIH backIH =>
    rw [Token.nestedWithin_join joint frontDerived.balanced] at nested
    have bound := frontIH nested.1
    rw [Phrase.trees_operand, Phrase.pathBound_operand, List.forall_mem_singleton] at bound
    exact List.forall_mem_cons.mpr ⟨bound, backIH nested.2⟩
  | alone _ ih =>
    intro tree member path isPath
    exact Nat.le_succ_of_le (ih nested tree member path isPath)
  | @together joint trees _ _ _ ih =>
    rw [Phrase.trees, List.forall_mem_singleton]
    intro path isPath
    cases isPath with
    | root => exact Nat.le_add_left 1 _
    | @step _ part path member isPath =>
      rw [parts_tree] at member
      exact Nat.succ_le_succ (ih nested part member path isPath)

/-- The numbers in a tree are the ones among its tokens. -/
theorem number_mem (derived : Derives phrase tokens) :
    ∀ tree ∈ phrase.trees, ∀ number ∈ tree.numbers, Token.number number ∈ tokens := by
  induction derived with
  | comparison compares =>
    rw [Phrase.trees, List.forall_mem_singleton]
    cases compares <;> simp [numbers]
  | group _ ih =>
    intro tree member number inTree
    exact List.mem_cons_of_mem _ (List.mem_append_left _ (ih tree member number inTree))
  | last _ ih => rwa [Phrase.trees_operand] at ih
  | more _ _ frontIH backIH =>
    rw [Phrase.trees_operand, List.forall_mem_singleton] at frontIH
    refine List.forall_mem_cons.mpr ⟨?_, ?_⟩
    · intro number inTree
      exact List.mem_append_left _ (frontIH number inTree)
    · intro tree member number inTree
      exact List.mem_append_right _ (List.mem_cons_of_mem _ (backIH tree member number inTree))
  | alone _ ih => exact ih
  | together _ _ ih =>
    rw [Phrase.trees, List.forall_mem_singleton]
    intro number inTree
    rw [numbers_tree, mem_numbersOf] at inTree
    obtain ⟨part, member, inPart⟩ := inTree
    exact ih part member number inPart

end Derives

/-- The number that a text spells is one. -/
theorem Token.Spelled.isNaN_eq_false {token : Token} {front : List Char} {continues : Char → Bool}
    (spelled : token.Spelled front continues) {value : Float} (isNumber : token = .number value) :
    value.isNaN = false := by
  cases spelled with
  | text => cases isNumber
  | number =>
    cases isNumber
    exact Numeral.isNaN_value _
  | sign isSign => cases isSign <;> cases isNumber
  | word =>
    simp only [Token.ofWord] at isNumber
    split at isNumber
    · cases isNumber
    split at isNumber
    · cases isNumber
    split at isNumber
    · cases isNumber
    · cases isNumber

theorem Covers.isNaN_eq_false {offset : Nat} {text : List Char} {tokens : List Token.Located}
    (covers : Covers offset text tokens) :
    ∀ value, Token.number value ∈ Token.bare tokens → value.isNaN = false := by
  induction covers with
  | blanks =>
    rintro value ⟨⟩
  | token _ spelled _ _ ih =>
    intro value member
    rcases List.mem_cons.mp member with first | others
    · exact spelled.isNaN_eq_false first.symm
    · exact ih value others

namespace Condition

theorem WellFormed.part {condition : Condition} (wellFormed : WellFormed condition) :
    ∀ part ∈ condition.parts, WellFormed part := by
  cases wellFormed with
  | compares compares =>
    rw [compares.parts_eq]
    exact List.forall_mem_nil _
  | joined joint _ each =>
    rw [parts_tree]
    exact each

theorem numbers_part {condition part : Condition} (member : part ∈ condition.parts) :
    ∀ number ∈ part.numbers, number ∈ condition.numbers := by
  intro number inPart
  cases condition with
  | comparison | between => cases member
  | all operands => exact mem_numbersOf.mpr ⟨part, member, inPart⟩
  | any operands => exact mem_numbersOf.mpr ⟨part, member, inPart⟩

theorem WellFormed.proper {condition : Condition} (wellFormed : WellFormed condition)
    (defined : ∀ number ∈ condition.numbers, number.isNaN = false) : condition.Proper := by
  cases wellFormed with
  | compares compares =>
    cases compares with
    | range numeric low high =>
      exact ⟨numeric, defined low List.mem_cons_self,
        defined high (List.mem_cons_of_mem low List.mem_cons_self)⟩
    | @number reading numeric comparator value =>
      have isNumber := defined value List.mem_cons_self
      cases reading with
      | weather => cases numeric
      | time | light => exact ⟨value, rfl, isNumber⟩
    | weather value => exact ⟨rfl, value, rfl⟩
  | joined joint several _ => cases joint <;> exact several

/-- Below a well-formed condition of numbers that are some, everything is as it should be. -/
theorem WellFormed.proper_of_path {condition : Condition} (wellFormed : WellFormed condition)
    (defined : ∀ number ∈ condition.numbers, number.isNaN = false) {path : List Condition}
    (isPath : Descends condition path) : ∀ node ∈ path, node.Proper := by
  have inherits : ∀ condition : Condition,
      (WellFormed condition ∧ ∀ number ∈ condition.numbers, number.isNaN = false) →
      ∀ part ∈ condition.parts,
        WellFormed part ∧ ∀ number ∈ part.numbers, number.isNaN = false := by
    rintro condition ⟨wellFormed, defined⟩ part member
    refine ⟨wellFormed.part part member, ?_⟩
    intro number inPart
    exact defined number (numbers_part member number inPart)
  intro node inPath
  obtain ⟨wellFormedNode, definedNode⟩ :=
    isPath.forall_mem inherits ⟨wellFormed, defined⟩ node inPath
  exact wellFormedNode.proper definedNode

/-! ## The longest paths -/

/-- Conjunctions in alternatives in conjunctions, over so many levels of groups and one more. -/
def alternating : Nat → Condition
  | 0 => .comparison .light .less (.number 1)
  | levels + 1 => .any [.comparison .light .less (.number 1),
      .all [.comparison .light .less (.number 1), alternating levels]]

theorem isChoice_alternating (levels : Nat) :
    (alternating levels).isChoice = decide (0 < levels) := by
  cases levels <;> rfl

theorem wellFormed_alternating (levels : Nat) : WellFormed (alternating levels) := by
  have leaf : WellFormed (.comparison .light .less (.number 1)) :=
    .compares (@Compares.number .light rfl .less 1)
  induction levels with
  | zero => exact leaf
  | succ levels ih =>
    have conjunction := @WellFormed.joined [_, _] .and (by simp) (by simpa using ⟨leaf, ih⟩)
    exact @WellFormed.joined [_, _] .or (by simp) (by simpa using ⟨leaf, conjunction⟩)

theorem numbers_alternating (levels : Nat) :
    ∀ number ∈ (alternating levels).numbers, number = 1 := by
  induction levels with
  | zero => simp [alternating, numbers]
  | succ levels ih => simpa [alternating, numbers, numbersOf] using ih

theorem flatten_alternating (levels : Nat) :
    (alternating levels).flatten = alternating levels := by
  induction levels with
  | zero => rw [alternating, flatten]
  | succ levels ih =>
    have spliced : Joint.and.spliced (alternating levels) = [alternating levels] := by
      cases levels <;> rfl
    rw [alternating, flatten, flattenOperands, flattenOperands, flattenOperands, flatten, flatten,
      flattenOperands, flattenOperands, flattenOperands, flatten, ih, spliced]
    rfl

/-- The outermost alternative needs no group. -/
theorem choiceDepth_alternating (levels : Nat) :
    (alternating (levels + 1)).choiceDepth = levels := by
  induction levels with
  | zero => simp [alternating, choiceDepth, operandsDepth, Joint.encloses, isChoice]
  | succ levels ih =>
    rw [alternating]
    simp [choiceDepth, operandsDepth, Joint.encloses, isChoice_alternating, ih]
    simp [isChoice]
    omega

theorem path_alternating (levels : Nat) :
    ∃ path, Descends (alternating levels) path ∧ path.length = 2 * levels + 1 := by
  induction levels with
  | zero => exact ⟨_, .root _, rfl⟩
  | succ levels ih =>
    obtain ⟨path, isPath, length⟩ := ih
    have inner : Descends (.all [.comparison .light .less (.number 1), alternating levels]) _ :=
      .step (by simp [parts]) isPath
    refine ⟨_, .step (by simp [alternating, parts]) inner, ?_⟩
    rw [List.length_cons, List.length_cons, length]
    omega

/-- As many levels of groups can be read as there may be. -/
theorem parse_alternating {levels : Nat} (bounded : levels ≤ 32) :
    parse (alternating (levels + 1)).text = .ok (alternating (levels + 1)) := by
  have read := (wellFormed_alternating (levels + 1)).parse_text ?_ ?_
  · rwa [flatten_alternating] at read
  · intro number member
    rw [numbers_alternating _ number member]
    decide +kernel
  · rw [choiceDepth_alternating]
    exact bounded

/-! ## Conditions that were read -/

/-- No path in a condition that was read has more than 67 conditions on it, and each of them is as
it should be.  So no comparison is left without an answer, on any sample; and 67 calls inside one
another are enough for the value of a condition, for the readings it depends on, and for its source
form. -/
theorem shape_of_parsed {source : String} {condition : Condition}
    (read : parse source = .ok condition) :
    (∀ path, Descends condition path → path.length ≤ 67 ∧ ∀ node ∈ path, node.Proper) ∧
    (∀ sample, fold? (answerStep sample) 67 condition = some (some (condition.holds sample))) ∧
    (fold? mentionStep 67 condition).map List.eraseDups = some condition.readings ∧
    (fold? charStep 67 condition).map String.ofList = some condition.text := by
  obtain ⟨located, cut, built⟩ := parse_eq_ok_iff.mp read
  obtain ⟨derived, nested⟩ := ofTokens_eq_ok_iff.mp built
  have itself := List.mem_singleton_self condition
  have short : ∀ path, Descends condition path → path.length ≤ 67 :=
    derived.length_le_pathBound nested condition itself
  have defined : ∀ number ∈ condition.numbers, number.isNaN = false := by
    intro number inTree
    exact (tokensFrom_eq_ok_iff.mp cut).isNaN_eq_false number
      (derived.number_mem condition itself number inTree)
  have proper : ∀ path, Descends condition path → ∀ node ∈ path, node.Proper := by
    intro path isPath
    exact (derived.wellFormed condition itself).proper_of_path defined isPath
  refine ⟨?_, ?_, ?_, ?_⟩
  · intro path isPath
    exact ⟨short path isPath, proper path isPath⟩
  · intro sample
    refine fold?_eq_some (fun node => some (node.holds sample)) short ?_
    intro path isPath node inPath
    exact (proper path isPath node inPath).answerStep_eq
  · rw [fold?_eq_some mentions short fun _ _ node _ => mentionStep_eq node]
    rfl
  · rw [fold?_eq_some chars short fun _ _ node _ => charStep_eq node]
    rfl

/-- Paths of 67 conditions occur. -/
theorem shape_of_parsed_alternating :
    (∃ path, Descends (alternating 33) path ∧ path.length = 67 ∧ ∀ node ∈ path, node.Proper) ∧
    ∀ sample, fold? (answerStep sample) 67 (alternating 33) =
      some (some ((alternating 33).holds sample)) := by
  obtain ⟨path, isPath, length⟩ := path_alternating 33
  have shape := shape_of_parsed (parse_alternating (Nat.le_refl 32))
  exact ⟨⟨path, isPath, length, (shape.1 path isPath).2⟩, shape.2.1⟩

end Condition

end Lamplight
