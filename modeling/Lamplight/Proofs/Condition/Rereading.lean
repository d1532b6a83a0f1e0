import Lamplight.Proofs.Condition.RoundTrip
import Lamplight.Proofs.Decimal.Order

/-!
# Which source forms can be read again

A numeral past the largest finite number is read as infinity, and infinity has no numeral.  It is
written as the word `inf`, which is the name of no reading, or with a minus before the word, which
is no token at all.  One such number spoils the whole source form, wherever it stands; without one,
the source form is read as a condition that holds of the same samples.
-/

namespace Lamplight

open Text Decimal

/-! ## Names that the grammar does not know -/

/-- Whether a token is a name, but of no reading. -/
def Token.isForeign : Token → Bool
  | .identifier name => (Reading.ofName? name).isNone
  | _ => false

/-- A comparison names nothing but its reading. -/
theorem Compares.isForeign_eq_false {tree : Condition} {tokens : List Token}
    (compares : Compares tree tokens) : ∀ token ∈ tokens, token.isForeign = false := by
  cases compares <;> simp [Token.isForeign]

/-- What the grammar derives names nothing but readings. -/
theorem Derives.isForeign_eq_false {phrase : Phrase} {tokens : List Token}
    (derived : Derives phrase tokens) : ∀ token ∈ tokens, token.isForeign = false := by
  induction derived with
  | comparison compares => exact compares.isForeign_eq_false
  | group _ ih =>
    refine List.forall_mem_cons.mpr ⟨rfl, List.forall_mem_append.mpr ⟨ih, ?_⟩⟩
    exact List.forall_mem_singleton.mpr rfl
  | last _ ih => exact ih
  | @more joint _ _ _ _ _ _ frontIH backIH =>
    have separator : joint.token.isForeign = false := by cases joint <;> rfl
    exact List.forall_mem_append.mpr ⟨frontIH, List.forall_mem_cons.mpr ⟨separator, backIH⟩⟩
  | alone _ ih => exact ih
  | together _ _ ih => exact ih

/-! ## Texts that are no condition -/

/-- A text that has no tokens, or the name of no reading among them, wherever in the source it
stands. -/
def Spoiled (text : List Char) : Prop :=
  ∀ offset located, tokensFrom offset text = .ok located →
    ∃ token ∈ Token.bare located, token.isForeign = true

namespace Spoiled

variable {text rest : List Char} {token : Token}

/-- A blank in front of a spoiled text changes nothing. -/
theorem blank {char : Char} (isBlank : isBlank char = true) (spoiled : Spoiled text) :
    Spoiled (char :: text) := by
  intro offset located read
  rw [tokensFrom_blank isBlank] at read
  exact spoiled _ located read

/-- A text is spoiled by its first token or by what follows it. -/
theorem of_cuts (cuts : Cuts text token rest) (spoils : token.isForeign = true ∨ Spoiled rest) :
    Spoiled text := by
  intro offset located read
  obtain ⟨front, _, first⟩ := tokensFrom_cuts cuts offset
  rw [first] at read
  cases behind : tokensFrom (offset + utf8Length front) rest with
  | error error =>
    rw [behind] at read
    cases read
  | ok others =>
    rw [behind] at read
    cases read
    rcases spoils with foreign | spoiled
    · exact ⟨token, List.mem_cons_self, foreign⟩
    · obtain ⟨found, member, foreign⟩ := spoiled _ others behind
      exact ⟨found, List.mem_cons_of_mem token member, foreign⟩

theorem cons (cuts : Cuts text token rest) (spoiled : Spoiled rest) : Spoiled text :=
  of_cuts cuts (.inr spoiled)

/-- A text is spoiled by a start that is no token. -/
theorem of_cut?_eq_none {char : Char} (stops : isBlank char = false)
    (none : Lexeme.cut? (char :: rest) = none) : Spoiled (char :: rest) := by
  intro offset located read
  rw [tokensFrom_eq] at read
  simp only [List.dropWhile_cons, stops, Bool.false_eq_true, if_false, none] at read
  cases read

end Spoiled

/-! ## Numbers without a numeral -/

/-- A word of letters before a text that does not go on with it. -/
theorem Cuts.word {first : Char} {letters rest : List Char}
    (starts : Lexeme.startsWord first = true)
    (continues : letters.all Lexeme.continuesWord = true) (ends : EndsNumber rest) :
    Cuts (first :: (letters ++ rest)) (.ofWord (String.ofList (first :: letters))) rest :=
  (Token.Spelled.word starts (List.all_eq_true.mp continues)).cuts
    (ends.mono continuesNumber_of_continuesWord)

/-- The text of infinity is a name. -/
theorem Cuts.infinity {rest : List Char} (ends : EndsNumber rest) :
    Cuts (plain.infinity.toList ++ rest) (.identifier plain.infinity) rest :=
  @Cuts.word 'i' ['n', 'f'] rest rfl rfl ends

/-- So is the text of no number. -/
theorem Cuts.notANumber {rest : List Char} (ends : EndsNumber rest) :
    Cuts (plain.notANumber.toList ++ rest) (.identifier plain.notANumber) rest :=
  @Cuts.word 'N' ['a', 'N'] rest rfl rfl ends

namespace Spoiled

/-- The text of a number that is not finite spoils what it starts, and so does what follows the text
of any number. -/
theorem number {number : Float} {rest : List Char} (ends : EndsNumber rest)
    (spoils : number.isFinite = false ∨ Spoiled rest) : Spoiled (plain.chars number ++ rest) := by
  by_cases finite : number.isFinite = true
  · rcases spoils with infinite | spoiled
    · rw [finite] at infinite
      cases infinite
    · exact cons (.number finite ends) spoiled
  · rw [NumberStyle.chars]
    by_cases undefined : number.isNaN = true
    · rw [if_pos undefined]
      exact of_cuts (.notANumber ends) (.inl rfl)
    · rw [if_neg undefined, if_pos (codeOf_eq_infinityCode undefined finite)]
      cases isNegative number with
      | true => exact of_cut?_eq_none rfl rfl
      | false => exact of_cuts (.infinity ends) (.inl rfl)

end Spoiled

/-! ## The source form of a condition -/

namespace Condition

/-- Some number in a condition is not finite. -/
def Unbounded (condition : Condition) : Prop :=
  ∃ number ∈ condition.numbers, number.isFinite = false

theorem unbounded_tree_iff {joint : Joint} {parts : List Condition} :
    Unbounded (joint.tree parts) ↔ ∃ part ∈ parts, Unbounded part := by
  simp only [Unbounded, numbers_tree, mem_numbersOf]
  grind

/-- A value of a comparison, before a text that may be spoiled. -/
theorem spoiled_literal (literal : Literal) {rest : List Char} (ends : EndsNumber rest)
    (spoils : (∃ value, literal = .number value ∧ value.isFinite = false) ∨ Spoiled rest) :
    Spoiled (literal.chars ++ rest) := by
  cases literal with
  | number value =>
    refine .number ends (spoils.imp_left ?_)
    rintro ⟨_, ⟨⟩, infinite⟩
    exact infinite
  | text value =>
    rcases spoils with ⟨_, ⟨⟩, _⟩ | spoiled
    exact .cons (.text value rest) spoiled

/-- Operands in parentheses where they are needed. -/
theorem spoiled_enclose {part : Condition}
    (each : ∀ rest, EndsNumber rest → Unbounded part ∨ Spoiled rest → Spoiled (part.chars ++ rest))
    (needed : Bool) {rest : List Char} (ends : EndsNumber rest)
    (spoils : Unbounded part ∨ Spoiled rest) : Spoiled (enclose needed part.chars ++ rest) := by
  cases needed with
  | false => exact each rest ends spoils
  | true =>
    have inside := each _ (endsNumber_closing rest) (spoils.imp_right (.cons (.closing rest)))
    simpa [enclose] using inside.cons (.opening _)

/-- The joining word between two operands. -/
theorem spoiled_separator (joint : Joint) {rest : List Char} (spoiled : Spoiled rest) :
    Spoiled (joint.separator ++ rest) := by
  cases joint with
  | and => exact .blank rfl (.cons (.and rest) (.blank rfl spoiled))
  | or => exact .blank rfl (.cons (.or rest) (.blank rfl spoiled))

/-- Operands and the joining words between them. -/
theorem spoiled_operands {joint : Joint} {parts : List Condition}
    (each : ∀ part ∈ parts, ∀ rest, EndsNumber rest → Unbounded part ∨ Spoiled rest →
      Spoiled (part.chars ++ rest))
    {rest : List Char} (ends : EndsNumber rest)
    (spoils : (∃ part ∈ parts, Unbounded part) ∨ Spoiled rest) :
    Spoiled (joint.chars parts ++ rest) := by
  induction parts with
  | nil =>
    rcases spoils with ⟨_, ⟨⟩, _⟩ | spoiled
    cases joint <;> exact spoiled
  | cons part others ih =>
    rw [List.forall_mem_cons] at each
    rw [List.exists_mem_cons_iff, or_assoc] at spoils
    cases others with
    | nil =>
      rw [Joint.chars_singleton]
      refine spoiled_enclose each.1 (joint.encloses part) ends (spoils.imp_right ?_)
      rintro (⟨_, ⟨⟩, _⟩ | spoiled)
      exact spoiled
    | cons next others =>
      have stops : EndsNumber (joint.separator ++ (joint.chars (next :: others) ++ rest)) := by
        cases joint <;> exact endsNumber_blank _
      rw [Joint.chars_cons joint part (List.cons_ne_nil next others)]
      simp only [List.append_assoc]
      refine spoiled_enclose each.1 (joint.encloses part) stops (spoils.imp_right ?_)
      intro behind
      exact spoiled_separator joint (ih each.2 behind)

/-- One number that is not finite spoils the source form from the start, and what stands behind a
source form can spoil it too. -/
theorem spoiled_chars (condition : Condition) {rest : List Char} (ends : EndsNumber rest)
    (spoils : Unbounded condition ∨ Spoiled rest) : Spoiled (condition.chars ++ rest) := by
  induction condition using joint_induction generalizing rest with
  | comparison reading comparator literal =>
    have value : (∃ value, literal = .number value ∧ value.isFinite = false) ∨ Spoiled rest := by
      refine spoils.imp_left ?_
      rintro ⟨number, member, infinite⟩
      cases literal with
      | number value => exact ⟨value, rfl, List.mem_singleton.mp member ▸ infinite⟩
      | text value => cases member
    have whole := Spoiled.cons (.reading reading _) (.blank rfl
      (.cons (.comparator comparator _) (.blank rfl (spoiled_literal literal ends value))))
    simpa [Condition.chars] using whole
  | between reading low high =>
    have bounds : low.isFinite = false ∨ high.isFinite = false ∨ Spoiled rest := by
      simpa [Unbounded, numbers, or_assoc] using spoils
    have lower : Spoiled (plain.chars low ++ ' ' ::
        ("AND".toList ++ ' ' :: (plain.chars high ++ rest))) := by
      refine .number (endsNumber_blank _) (bounds.imp_right ?_)
      intro upper
      exact .blank rfl (.cons (.and _) (.blank rfl (.number ends upper)))
    have whole := Spoiled.cons (.reading reading _) (.blank rfl
      (.cons (.between _) (.blank rfl lower)))
    simpa [Condition.chars] using whole
  | tree joint parts ih =>
    rw [Joint.chars_tree]
    rw [unbounded_tree_iff] at spoils
    exact spoiled_operands (fun part member _ => ih part member) ends spoils

/-- A source form that can be read is one of finite numbers. -/
theorem isFinite_of_parse_text {condition again : Condition}
    (read : parse condition.text = .ok again) :
    ∀ number ∈ condition.numbers, number.isFinite = true := by
  intro number member
  rw [← Bool.not_eq_false]
  intro infinite
  obtain ⟨located, cut, built⟩ := parse_eq_ok_iff.mp read
  rw [tokenize, text, String.toList_ofList] at cut
  have spoiled := @spoiled_chars condition [] rfl (.inl ⟨number, member, infinite⟩)
  rw [List.append_nil] at spoiled
  obtain ⟨token, found, foreign⟩ := spoiled 0 located cut
  rw [(ofTokens_eq_ok_iff.mp built).1.isForeign_eq_false token found] at foreign
  cases foreign

/-- The source form of a condition that was read is read again just when its numbers are all finite,
and then as a condition that holds of the same samples. -/
theorem readable_iff_isFinite {source : String} {condition : Condition}
    (read : parse source = .ok condition) :
    ((∃ again, parse condition.text = .ok again) ↔
      ∀ number ∈ condition.numbers, number.isFinite = true) ∧
    ∀ again, parse condition.text = .ok again →
      ∀ sample, again.holds sample = condition.holds sample := by
  obtain ⟨wellFormed, depth⟩ := wellFormed_of_parse read
  refine ⟨⟨?_, ?_⟩, ?_⟩
  · rintro ⟨again, readAgain⟩
    exact isFinite_of_parse_text readAgain
  · intro finite
    exact ⟨condition.flatten, wellFormed.parse_text finite depth⟩
  · intro again readAgain sample
    have flat := wellFormed.parse_text (isFinite_of_parse_text readAgain) depth
    cases readAgain.symm.trans flat
    exact holds_flatten sample condition

/-- `light < 1e999` is a condition, which every finite light level meets; it is written
`light < inf`, which is no condition. -/
theorem unreadable_overflow :
    ∃ condition, parse "light < 1e999" = .ok condition ∧ condition.text = "light < inf" ∧
      ∀ again, parse condition.text ≠ .ok again := by
  have cut : tokenize "light < 1e999" = .ok [⟨0, .identifier "light"⟩, ⟨6, .comparator .less⟩,
      ⟨8, .number (ofCode false infinityCode)⟩] := by
    decide +kernel
  have compared : ∀ number, ofTokens [⟨0, .identifier "light"⟩, ⟨6, .comparator .less⟩,
      ⟨8, .number number⟩] = .ok (.comparison .light .less (.number number)) := by
    intro number
    cbv
  have read := parse_eq_ok_iff.mpr ⟨_, cut, compared _⟩
  refine ⟨_, read, by decide +kernel, ?_⟩
  intro again read
  have finite := isFinite_of_parse_text read _ List.mem_cons_self
  exact absurd finite (by decide +kernel)

/-- Numerals in four spellings, one of them of a number below the smallest positive one. -/
theorem readable_numerals :
    ∃ condition, parse "light >= +2.50e3 AND (time BETWEEN 06 AND .5E1 OR light < 1e-400)" =
        .ok condition ∧
      ∃ again, parse condition.text = .ok again ∧
        ∀ sample, again.holds sample = condition.holds sample := by
  have cut : tokenize "light >= +2.50e3 AND (time BETWEEN 06 AND .5E1 OR light < 1e-400)" =
      .ok [⟨0, .identifier "light"⟩, ⟨6, .comparator .greaterEqual⟩, ⟨9, .number 2500⟩, ⟨17, .and⟩,
        ⟨21, .opening⟩, ⟨22, .identifier "time"⟩, ⟨27, .between⟩, ⟨35, .number 6⟩, ⟨38, .and⟩,
        ⟨42, .number 5⟩, ⟨47, .or⟩, ⟨50, .identifier "light"⟩, ⟨56, .comparator .less⟩,
        ⟨58, .number 0⟩, ⟨64, .closing⟩] := by
    decide +kernel
  have read := parse_eq_ok_iff.mpr ⟨_, cut,
    show ofTokens _ = .ok (.all [.comparison .light .greaterEqual (.number 2500),
      .any [.between .time 6 5, .comparison .light .less (.number 0)]]) by cbv⟩
  obtain ⟨readable, same⟩ := readable_iff_isFinite read
  obtain ⟨again, readAgain⟩ := readable.mpr (by decide +kernel)
  exact ⟨_, read, again, readAgain, same again readAgain⟩

end Condition

end Lamplight
