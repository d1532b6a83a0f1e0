import Lamplight.Proofs.Condition.Lexing

/-!
# Reading back the source form of a condition

The source form puts parentheses around alternatives inside a conjunction and nowhere else.  Reading
it gives back the flat condition, in which operands of an operand are spliced where both are joined
by the same word; it has the same source form and holds of the same samples.
-/

namespace Lamplight

namespace Condition

/-- The source form of a condition is cut into its tokens. -/
theorem tokenize_text (condition : Condition)
    (finite : ∀ number ∈ condition.numbers, number.isFinite = true) :
    ∃ located, tokenize condition.text = .ok located ∧ Token.bare located = condition.tokens := by
  have lexes := @lexes_chars condition finite [] [] rfl .nil
  rw [List.append_nil, List.append_nil] at lexes
  rw [tokenize, text, String.toList_ofList]
  exact lexes 0

/-- Reading the source form of a condition gives the flat condition. -/
theorem WellFormed.parse_text {condition : Condition} (wellFormed : WellFormed condition)
    (finite : ∀ number ∈ condition.numbers, number.isFinite = true)
    (depth : condition.choiceDepth ≤ maxDepth) : parse condition.text = .ok condition.flatten := by
  obtain ⟨located, cut, bare⟩ := tokenize_text condition finite
  refine parse_eq_ok_iff.mpr ⟨located, cut, ofTokens_eq_ok_iff.mpr ?_⟩
  rw [bare]
  exact ⟨wellFormed.derives_flatten, wellFormed.nestedWithin_tokens depth⟩

/-- What is read from a source can be written, and its groups are within the limit again. -/
theorem wellFormed_of_parse {source : String} {condition : Condition}
    (read : parse source = .ok condition) :
    WellFormed condition ∧ condition.choiceDepth ≤ maxDepth := by
  obtain ⟨located, _, built⟩ := parse_eq_ok_iff.mp read
  obtain ⟨derived, nested⟩ := ofTokens_eq_ok_iff.mp built
  exact ⟨derived.wellFormed condition (List.mem_singleton_self condition), derived.depth_le nested⟩

/-- Reading the source form of a well-formed condition gives the flat condition, which has the same
source form and holds of the same samples; and whatever is read is well formed, with at most 32
alternatives inside conjunctions around one another. -/
theorem roundTrip :
    (∀ condition : Condition, WellFormed condition →
      (∀ number ∈ condition.numbers, number.isFinite = true) → condition.choiceDepth ≤ 32 →
      parse condition.text = .ok condition.flatten ∧ condition.flatten.text = condition.text ∧
        ∀ sample, holds sample condition.flatten = holds sample condition) ∧
    ∀ source condition, parse source = .ok condition →
      WellFormed condition ∧ condition.choiceDepth ≤ 32 := by
  constructor
  · intro condition wellFormed finite depth
    refine ⟨wellFormed.parse_text finite depth, ?_, ?_⟩
    · rw [text, text, wellFormed.chars_flatten]
    · intro sample
      exact holds_flatten sample condition
  · intro source condition read
    exact wellFormed_of_parse read

/-- `time BETWEEN 6.5 AND 18 AND light < -0.1 AND (weather = "…" OR weather = "" OR light = 1e300)`,
with a conjunction inside a conjunction, alternatives inside alternatives and a text of characters
that are escaped. -/
def nested : Condition :=
  .all [.all [.between .time 6.5 18, .comparison .light .less (.number (-0.1))],
    .any [.comparison .weather .equal (.text "\"\\\n\t"),
      .any [.comparison .weather .equal (.text ""), .comparison .light .equal (.number 1e300)]]]

theorem wellFormed_nested : WellFormed nested := by
  have pair : ∀ (joint : Joint) {left right : Condition}, WellFormed left → WellFormed right →
      WellFormed (joint.tree [left, right]) := by
    intro joint left right leftFormed rightFormed
    refine .joined joint (Nat.le_refl 2) ?_
    simp [leftFormed, rightFormed]
  exact pair .and
    (pair .and (.compares (.range rfl _ _)) (.compares (.number rfl _ _)))
    (pair .or (.compares (.weather _))
      (pair .or (.compares (.weather _)) (.compares (.number rfl _ _))))

theorem roundTrip_nested :
    (WellFormed nested ∧ nested.choiceDepth = 1) ∧
    parse nested.text = .ok (.all [.between .time 6.5 18,
      .comparison .light .less (.number (-0.1)),
      .any [.comparison .weather .equal (.text "\"\\\n\t"),
        .comparison .weather .equal (.text ""), .comparison .light .equal (.number 1e300)]]) ∧
    WellFormed nested.flatten := by
  have finite : ∀ number ∈ nested.numbers, number.isFinite = true := by
    decide +kernel
  have depth : nested.choiceDepth = 1 := by decide +kernel
  obtain ⟨read, -, -⟩ := roundTrip.1 nested wellFormed_nested finite (by omega)
  exact ⟨⟨wellFormed_nested, depth⟩, read, (roundTrip.2 nested.text nested.flatten read).1⟩

end Condition

end Lamplight
