import Lamplight.Proofs.Condition.Monotonicity
import Lamplight.Proofs.Condition.Shape

/-!
# The readings on which a condition depends

The readings that a condition lists are those whose names its source mentions, in the order in which
they are mentioned first.  What the other readings of a sample are is of no account.
-/

namespace Lamplight

open Decimal

/-! ## First occurrences -/

section Lists

variable {α : Type} [DecidableEq α]

/-- A list has every value of another one once, in the order of their first occurrences. -/
structure FirstSeen (once values : List α) : Prop where
  nodup : once.Nodup
  mem_iff : ∀ value, value ∈ once ↔ value ∈ values
  ordered : once.Pairwise fun earlier later => values.idxOf earlier < values.idxOf later

/-- Leaving out other values does not change which of two comes first. -/
theorem idxOf_lt_of_filter {test : α → Bool} {values : List α} {earlier later : α}
    (less : (values.filter test).idxOf earlier < (values.filter test).idxOf later)
    (earlierKept : test earlier = true) (laterKept : test later = true) :
    values.idxOf earlier < values.idxOf later := by
  induction values with
  | nil => exact less
  | cons value rest ih =>
    rw [List.idxOf_cons, List.idxOf_cons]
    grind

/-- What is left when later occurrences are erased. -/
theorem firstSeen_eraseDups (values : List α) : FirstSeen values.eraseDups values := by
  -- by induction on the length: the first value is erased from the whole rest before anything else
  induction size : values.length using Nat.strongRecOn generalizing values with
  | ind length ih =>
    subst size
    cases values with
    | nil => exact ⟨by simp, by simp, by simp⟩
    | cons value rest =>
      have shorter : (rest.filter fun other => !other == value).length < (value :: rest).length :=
        Nat.lt_succ_of_le (List.length_filter_le _ rest)
      have seen := ih _ shorter _ rfl
      have kept : ∀ other ∈ (rest.filter fun other => !other == value).eraseDups,
          (!other == value) = true := by
        intro other member
        exact (List.mem_filter.mp ((seen.mem_iff other).mp member)).2
      have behind : ∀ other ∈ (rest.filter fun other => !other == value).eraseDups,
          (value :: rest).idxOf other = rest.idxOf other + 1 := by
        intro other member
        have different : value ≠ other := by
          rintro rfl
          simpa using kept value member
        exact List.idxOf_cons_ne rest different
      rw [List.eraseDups_cons]
      refine ⟨?_, ?_, ?_⟩
      · refine List.nodup_cons.mpr ⟨?_, seen.nodup⟩
        intro again
        simpa using kept value again
      · intro other
        rw [List.mem_cons, List.mem_cons, seen.mem_iff, List.mem_filter]
        by_cases same : other = value <;> simp [same]
      · refine List.pairwise_cons.mpr ⟨?_, ?_⟩
        · intro other member
          rw [List.idxOf_cons_self, behind other member]
          exact Nat.succ_pos _
        · refine seen.ordered.imp_of_mem ?_
          intro earlier later earlierMember laterMember less
          rw [behind earlier earlierMember, behind later laterMember]
          exact Nat.succ_lt_succ
            (idxOf_lt_of_filter less (kept earlier earlierMember) (kept later laterMember))

end Lists

/-! ## Names in a source -/

/-- The name that a token is, if it is no keyword. -/
def Token.name? : Token → Option String
  | .identifier name => some name
  | _ => none

theorem Joint.name?_token (joint : Joint) : joint.token.name? = none := by
  cases joint <;> rfl

namespace Condition

theorem mentions_tree (joint : Joint) (parts : List Condition) :
    mentions (joint.tree parts) = parts.flatMap mentions := by
  cases joint <;> rw [Joint.tree, mentions, mentionsOf_eq]

end Condition

open Condition

/-- The names in a comparison are those of its readings. -/
theorem Compares.names_eq {tree : Condition} {tokens : List Token}
    (compares : Compares tree tokens) :
    tokens.filterMap Token.name? = tree.mentions.map Reading.name := by
  cases compares <;> simp [Token.name?, mentions]

/-- The names among the tokens of a phrase are those of the readings of its trees, in their order:
groups leave no trace in a tree, and have no names but those inside. -/
theorem Derives.names_eq {phrase : Phrase} {tokens : List Token} (derived : Derives phrase tokens) :
    tokens.filterMap Token.name? = (phrase.trees.flatMap mentions).map Reading.name := by
  induction derived with
  | comparison compares => simp [Phrase.trees, compares.names_eq]
  | group _ ih => simpa [Phrase.trees, Token.name?, List.filterMap_cons] using ih
  | last _ ih => rwa [Phrase.trees_operand] at ih
  | @more joint tree trees front back _ _ frontIH backIH =>
    rw [Phrase.trees_operand, List.flatMap_singleton] at frontIH
    rw [List.filterMap_append, List.filterMap_cons_none joint.name?_token, frontIH, backIH,
      Phrase.trees, Phrase.trees, List.flatMap_cons, List.map_append]
  | alone _ ih => exact ih
  | together _ _ ih =>
    rw [Phrase.trees, List.flatMap_singleton, mentions_tree]
    exact ih

/-! ## Samples that agree -/

namespace Sample

/-- Two samples have the same reading: the same word, or numbers that are the same or count as
equal. -/
def Agrees (left right : Sample) : Reading → Prop
  | .time => left.time = right.time ∨ (left.time == right.time) = true
  | .light => left.light = right.light ∨ (left.light == right.light) = true
  | .weather => left.weather = right.weather

end Sample

/-- No comparison tells numbers apart that count as equal. -/
theorem Comparator.holds_congr {left right : Float}
    (same : left = right ∨ (left == right) = true) (comparator : Comparator) (bound : Float) :
    comparator.holds left bound = comparator.holds right bound := by
  rcases same with rfl | equal
  · rfl
  · have numbers := isNumber_of_beq equal
    have ranks := (beq_iff_rank_eq numbers.1 numbers.2).mp equal
    rw [Bool.eq_iff_iff, holds_iff, holds_iff, numbers.1, numbers.2, ranks]

namespace Sample.Agrees

variable {left right : Sample} {reading : Reading}

theorem compares_eq (agrees : left.Agrees right reading) (comparator : Comparator)
    (literal : Literal) :
    left.compares reading comparator literal = right.compares reading comparator literal := by
  cases reading with
  | time | light =>
    cases literal with
    | number value => exact comparator.holds_congr agrees value
    | text => rfl
  | weather =>
    cases literal with
    | number => rfl
    | text value =>
      have same : left.weather = right.weather := agrees
      rw [compares, compares, same]

theorem within_eq (agrees : left.Agrees right reading) (low high : Float) :
    left.within reading low high = right.within reading low high := by
  cases reading with
  | time | light =>
    have above := Comparator.holds_congr agrees .greaterEqual low
    have below := Comparator.holds_congr agrees .lessEqual high
    exact congrArg₂ and above below
  | weather => rfl

end Sample.Agrees

namespace Condition

/-- The readings of a condition are those of its leaves. -/
theorem flatMap_leaves (condition : Condition) :
    condition.leaves.flatMap mentions = condition.mentions := by
  induction condition using joint_induction with
  | comparison reading comparator literal => rw [leaves, List.flatMap_singleton]
  | between reading low high => rw [leaves, List.flatMap_singleton]
  | tree joint parts ih =>
    rw [leaves_tree, mentions_tree, List.flatMap_assoc]
    exact List.flatMap_congr ih

/-- The value of a condition depends on the readings that it mentions. -/
theorem holds_congr {left right : Sample} {condition : Condition}
    (agree : ∀ reading ∈ condition.mentions, left.Agrees right reading) :
    condition.holds left = condition.holds right := by
  rw [← flatMap_leaves, List.forall_mem_flatMap] at agree
  have apart : ∀ leaf ∈ condition.leaves, (∀ reading ∈ leaf.mentions, left.Agrees right reading) →
      leaf.holds left = leaf.holds right := by
    refine forall_mem_leaves ?_ ?_ condition
    · intro reading comparator literal agree
      rw [mentions, List.forall_mem_singleton] at agree
      exact agree.compares_eq comparator literal
    · intro reading low high agree
      rw [mentions, List.forall_mem_singleton] at agree
      exact agree.within_eq low high
  have same : ∀ leaf ∈ condition.leaves, leaf.holds left = leaf.holds right := by
    intro leaf member
    exact apart leaf member (agree leaf member)
  rw [Bool.eq_iff_iff]
  constructor
  · exact holds_of_leaves fun leaf member => (same leaf member).symm ▸ id
  · exact holds_of_leaves fun leaf member => same leaf member ▸ id

/-- A rule does the same on samples that agree on the readings of its condition. -/
theorem effect_congr {left right : Sample} {rule : Rule} {condition : Condition}
    (read : parse rule.condition = .ok condition)
    (agree : ∀ reading ∈ condition.mentions, left.Agrees right reading) :
    rule.effect left = rule.effect right := by
  rw [Rule.effect, Rule.effect, read]
  dsimp only
  rw [holds_congr agree]

/-- The names in the source of a condition are those of the readings at its leaves. -/
theorem names_of_parse {source : String} {condition : Condition}
    (read : parse source = .ok condition) :
    ∃ tokens, tokenize source = .ok tokens ∧
      (Token.bare tokens).filterMap Token.name? = condition.mentions.map Reading.name := by
  obtain ⟨tokens, cut, built⟩ := parse_eq_ok_iff.mp read
  have names := (ofTokens_eq_ok_iff.mp built).1.names_eq
  rw [Phrase.trees, List.flatMap_singleton] at names
  exact ⟨tokens, cut, names⟩

/-- The readings of a condition that was read are those whose names are among the tokens of its
source, each once and in the order in which they are named first; every name there is one of a
reading.  On samples that agree on these readings the condition has the same value, and a rule
with this source does the same. -/
theorem readings_decide {source : String} {condition : Condition}
    (read : parse source = .ok condition) :
    (∃ tokens named, tokenize source = .ok tokens ∧
      ((Token.bare tokens).filterMap Token.name?).mapM Reading.ofName? = some named ∧
      FirstSeen condition.readings named) ∧
    ∀ left right : Sample, (∀ reading ∈ condition.readings, left.Agrees right reading) →
      condition.holds left = condition.holds right ∧
      ∀ rule : Rule, rule.condition = source → rule.effect left = rule.effect right := by
  constructor
  · obtain ⟨tokens, cut, names⟩ := names_of_parse read
    refine ⟨tokens, condition.mentions, cut, ?_, firstSeen_eraseDups condition.mentions⟩
    have known : condition.mentions.mapM (Reading.ofName? ∘ Reading.name) =
        some (condition.mentions.map id) :=
      mapM_eq_some fun reading _ => reading.ofName?_name
    rw [names, List.mapM_map, known, List.map_id]
  · intro left right agree
    have agreeOnMentions : ∀ reading ∈ condition.mentions, left.Agrees right reading := by
      intro reading member
      exact agree reading (List.mem_eraseDups.mpr member)
    refine ⟨holds_congr agreeOnMentions, ?_⟩
    rintro rule rfl
    exact effect_congr read agreeOnMentions

/-- The light level is named three times and a range has an `AND` of its own; the time is not named,
so it does not matter. -/
theorem readings_decide_without_time :
    ∃ condition, parse "(light < 1 OR light BETWEEN 2 AND 3) AND weather = 'fog' OR light > 4" =
        .ok condition ∧
      (∃ named, FirstSeen condition.readings named ∧ condition.readings = [.light, .weather]) ∧
      ∀ time later, condition.holds ⟨time, 0, "fog"⟩ = condition.holds ⟨later, -0, "fog"⟩ := by
  have cut : tokenize "(light < 1 OR light BETWEEN 2 AND 3) AND weather = 'fog' OR light > 4" =
      .ok [⟨0, .opening⟩, ⟨1, .identifier "light"⟩, ⟨7, .comparator .less⟩, ⟨9, .number 1⟩,
        ⟨11, .or⟩, ⟨14, .identifier "light"⟩, ⟨20, .between⟩, ⟨28, .number 2⟩, ⟨30, .and⟩,
        ⟨34, .number 3⟩, ⟨35, .closing⟩, ⟨37, .and⟩, ⟨41, .identifier "weather"⟩,
        ⟨49, .comparator .equal⟩, ⟨51, .text "fog"⟩, ⟨57, .or⟩, ⟨60, .identifier "light"⟩,
        ⟨66, .comparator .greater⟩, ⟨68, .number 4⟩] := by
    decide +kernel
  have read := parse_eq_ok_iff.mpr ⟨_, cut,
    show ofTokens _ = .ok (.any [.all [.any [.comparison .light .less (.number 1),
      .between .light 2 3], .comparison .weather .equal (.text "fog")],
      .comparison .light .greater (.number 4)]) by cbv⟩
  obtain ⟨⟨_, named, _, _, seen⟩, same⟩ := readings_decide read
  have zeros : ((0 : Float) == -0) = true := by decide +kernel
  refine ⟨_, read, ⟨named, seen, by decide +kernel⟩, ?_⟩
  intro time later
  refine (same ⟨time, 0, "fog"⟩ ⟨later, -0, "fog"⟩ ?_).1
  intro reading member
  have listed : reading ∈ [Reading.light, Reading.weather] := member
  rcases List.mem_pair.mp listed with rfl | rfl
  · exact .inr zeros
  · rfl

end Condition

end Lamplight
