import Lamplight.Decimal.Unsigned

/-!
# The spelling of words

A text is read as a word if it is digits of that value, with or without a plus sign in front of
them.  A number that is too large for a word is not read at all.
-/

namespace Lamplight.Decimal

/-- Digits, of which there is one at least, and their value. -/
def DigitsOf (digits : List Char) (value : Nat) : Prop :=
  digits ≠ [] ∧ digits.all Char.isDigit = true ∧ digitsValue digits = value

/-- A text and the whole number that it stands for. -/
def Spells (text : List Char) (value : Nat) : Prop :=
  ∃ digits, (text = digits ∨ text = '+' :: digits) ∧ DigitsOf digits value

theorem readDigits?_eq_some_iff {text : List Char} {value : Nat} :
    readDigits? text = some value ↔ DigitsOf text value := by
  rw [readDigits?, DigitsOf, Option.ite_none_right_eq_some, Option.some_inj, Bool.and_eq_true,
    Bool.not_eq_true', List.isEmpty_eq_false_iff, and_assoc]

theorem readUnsigned?_eq_some_iff {text : List Char} {value : Nat} :
    readUnsigned? text = some value ↔ Spells text value := by
  rw [readUnsigned?.eq_def]
  split
  · next rest =>
    rw [readDigits?_eq_some_iff]
    constructor
    · exact fun spelled => ⟨rest, .inr rfl, spelled⟩
    · rintro ⟨digits, rfl | same, spelled⟩
      · -- A plus sign is no digit.
        obtain ⟨-, allDigits, -⟩ := spelled
        rw [List.all_cons, Bool.and_eq_true] at allDigits
        exact absurd allDigits.1 (by decide)
      · cases same
        exact spelled
  · next unsigned =>
    rw [readDigits?_eq_some_iff]
    constructor
    · exact fun spelled => ⟨text, .inl rfl, spelled⟩
    · rintro ⟨digits, rfl | rfl, spelled⟩
      · exact spelled
      · exact absurd rfl (unsigned digits)

/-- What is read as a word of some size is read as the number that the word is. -/
theorem bounded_eq_some_iff {α : Type} {size : Nat} {ofNat : Nat → α} {toNat : α → Nat}
    (toNat_lt : ∀ word, toNat word < size) (ofNat_toNat : ∀ word, ofNat (toNat word) = word)
    (toNat_ofNat : ∀ value, value < size → toNat (ofNat value) = value) (read : Option Nat)
    (word : α) :
    (match read with
      | some value => if value < size then some (ofNat value) else none
      | none => none) = some word ↔ read = some (toNat word) := by
  cases read with
  | none => simp
  | some value =>
    rw [Option.ite_none_right_eq_some, Option.some_inj, Option.some_inj]
    constructor
    · rintro ⟨fits, rfl⟩
      exact (toNat_ofNat value fits).symm
    · rintro rfl
      exact ⟨toNat_lt word, ofNat_toNat word⟩

theorem readWord32?_eq_some_iff {text : String} {word : UInt32} :
    readWord32? text = some word ↔ Spells text.toList word.toNat :=
  (bounded_eq_some_iff UInt32.toNat_lt_size (fun _ => UInt32.ofNat_toNat)
    (fun _ fits => UInt32.toNat_ofNat_of_lt' fits) _ word).trans readUnsigned?_eq_some_iff

theorem readWord64?_eq_some_iff {text : String} {word : UInt64} :
    readWord64? text = some word ↔ Spells text.toList word.toNat :=
  (bounded_eq_some_iff UInt64.toNat_lt_size (fun _ => UInt64.ofNat_toNat)
    (fun _ fits => UInt64.toNat_ofNat_of_lt' fits) _ word).trans readUnsigned?_eq_some_iff

end Lamplight.Decimal
