import Lamplight.Proofs.Scanning
import Lamplight.Proofs.Toml.Number
import Lamplight.Toml.Reader
import Lamplight.Toml.Writer

/-!
# Values that are read back

A text, a whole number of 64 bits, any number but the undefined one, and arrays of such values are
written as texts that are read as the values themselves.  Arrays may enclose one another as deeply
as the reader goes; the items of an array of several items stand on lines of their own.  Main
statement: `reads_value`.
-/

namespace Lamplight.Toml

open Decimal Text

/-! ## Gaps -/

/-- Whether a text does not start with a blank, a line end or a comment. -/
abbrev Opens (text : List Char) : Prop :=
  Stops (fun char => isBlank char || char == '\n' || char == '\r' || char == '#') text

section Gaps

variable {text : List Char}

theorem skipBlanks_append {blanks : List Char} (each : ∀ char ∈ blanks, isBlank char = true)
    (stops : Stops isBlank text) : skipBlanks (blanks ++ text) = text := by
  rw [skipBlanks, Split.span_eq each stops]

theorem skipBlanks_eq_self (stops : Stops isBlank text) : skipBlanks text = text :=
  skipBlanks_append (List.forall_mem_nil _) stops

theorem Opens.noBlank (opens : Opens text) : Stops isBlank text :=
  Stops.mono opens fun char blank => by simp [blank]

theorem newline?_skipComment_eq_none (opens : Opens text) : newline? (skipComment text) = none := by
  cases text with
  | nil => rfl
  | cons char more =>
    have other : (isBlank char || char == '\n' || char == '\r' || char == '#') = false := opens
    simp only [Bool.or_eq_false_iff, beq_eq_false_iff_ne] at other
    have noComment : skipComment (char :: more) = char :: more := by
      rw [skipComment]
      rintro rest ⟨⟩
      exact other.2 rfl
    rw [noComment, newline?]
    · rintro rest ⟨⟩
      exact other.1.1.2 rfl
    · rintro rest ⟨⟩
      exact other.1.2 rfl

/-- A gap of blanks ends where the text opens. -/
theorem skipGap_blanks {blanks : List Char} (each : ∀ char ∈ blanks, isBlank char = true)
    (opens : Opens text) : skipGap (blanks ++ text) = text := by
  have skipped : skipBlanks (blanks ++ text) = text := skipBlanks_append each opens.noBlank
  have noLine : newline? (skipComment (skipBlanks (blanks ++ text))) = none := by
    rw [skipped, newline?_skipComment_eq_none opens]
  rw [skipGap, noLine]
  exact skipped

theorem skipGap_eq_self (opens : Opens text) : skipGap text = text :=
  skipGap_blanks (List.forall_mem_nil _) opens

/-- A line end belongs to a gap. -/
theorem skipGap_newline (text : List Char) : skipGap ('\n' :: text) = skipGap text := by
  rw [skipGap]
  rfl

end Gaps

/-! ## Arrays -/

section Arrays

variable {item : Piece Value} {text start middle rest : List Char} {first : Value}

theorem reads_arrayItems_end (gap : skipGap text = ']' :: rest) :
    Reads (arrayItems item) text [] rest := by
  rw [Reads, arrayItems]
  split
  · next nothing => cases gap.symm.trans nothing
  · next closed =>
    cases gap.symm.trans closed
    exact ⟨_, rfl, rfl, rfl⟩
  · next other opened =>
    cases gap.symm.trans opened
    exact (other rfl).elim

/-- An item before the closing bracket. -/
theorem reads_arrayItems_last (gap : skipGap text = start) (open_ : Stops (· == ']') start)
    (reads : Reads item start first middle) (close : skipGap middle = ']' :: rest) :
    Reads (arrayItems item) text [first] rest := by
  obtain ⟨found, read, rfl, rfl⟩ := reads
  rw [Reads, arrayItems]
  split
  · next nothing =>
    cases gap.symm.trans nothing
    exact absurd found.shorter (Nat.not_lt_zero _)
  · next closed =>
    cases gap.symm.trans closed
    cases open_
  · next opened =>
    cases gap.symm.trans opened
    split
    · next failed => cases read.symm.trans failed
    · next again readAgain =>
      cases read.symm.trans readAgain
      split
      · next comma => cases close.symm.trans comma
      · next closed =>
        cases close.symm.trans closed
        exact ⟨_, rfl, rfl, rfl⟩
      · next noComma noBracket =>
        exact absurd close (noBracket _)

/-- An item, a comma and the items behind it. -/
theorem reads_arrayItems_more {more : List Char} {others : List Value}
    (gap : skipGap text = start) (open_ : Stops (· == ']') start)
    (reads : Reads item start first middle) (comma : skipGap middle = ',' :: more)
    (behind : Reads (arrayItems item) more others rest) :
    Reads (arrayItems item) text (first :: others) rest := by
  obtain ⟨found, read, rfl, rfl⟩ := reads
  obtain ⟨next, readNext, rfl, rfl⟩ := behind
  rw [Reads, arrayItems]
  split
  · next nothing =>
    cases gap.symm.trans nothing
    exact absurd found.shorter (Nat.not_lt_zero _)
  · next closed =>
    cases gap.symm.trans closed
    cases open_
  · next opened =>
    cases gap.symm.trans opened
    split
    · next failed => cases read.symm.trans failed
    · next again readAgain =>
      cases read.symm.trans readAgain
      split
      · next again =>
        cases comma.symm.trans again
        split
        · next failed => cases readNext.symm.trans failed
        · next again readAgain =>
          cases readNext.symm.trans readAgain
          exact ⟨_, rfl, rfl, rfl⟩
      · next closed => cases comma.symm.trans closed
      · next noComma noBracket =>
        exact absurd comma (noComma _)

end Arrays

/-! ## Values -/

/-- The values that can be written and read back, with arrays at most so many levels deep. -/
inductive Writable : (depth : Nat) → Value → Prop
  | text {depth : Nat} (value : String) : Writable depth (.text value)
  | integer {depth : Nat} {value : Int} (low : -(signBit : Int) ≤ value)
      (high : value < signBit) : Writable depth (.integer value)
  | number {depth : Nat} {value : Float} (isNumber : value.isNaN = false) :
      Writable depth (.number value)
  | array {depth : Nat} {items : List Value} (each : ∀ item ∈ items, Writable depth item) :
      Writable (depth + 1) (.array items)

/-- Whether a text starts with a character of some property. -/
abbrev Starts (property : Char → Bool) (text : List Char) : Prop := text.head?.any property = true

/-- Whether a number can start with a character. -/
def startsNumeral (char : Char) : Bool := char.isDigit || char == '-' || char == 'i'

/-- Whether a value can start with a character. -/
def startsValue (char : Char) : Bool :=
  startsNumeral char || char == '"' || char == '\'' || char == '['

section Starts

variable {property : Char → Bool} {text : List Char}

theorem Starts.append (starts : Starts property text) (rest : List Char) :
    Starts property (text ++ rest) := by
  cases text with
  | nil => cases starts
  | cons char more => exact starts

/-- A text that starts with one kind of character does not go on with another. -/
theorem Starts.stops {other : Char → Bool} (starts : Starts property text)
    (apart : ∀ char, property char = true → other char = false) : Stops other text := by
  cases text with
  | nil => rfl
  | cons char more => exact apart char starts

theorem Starts.mono {wide : Char → Bool} (starts : Starts property text)
    (wider : ∀ char, property char = true → wide char = true) : Starts wide text := by
  cases text with
  | nil => cases starts
  | cons char more => exact wider char starts

theorem starts_quoted (text : List Char) :
    Starts (fun char => char == '"' || char == '\'') (quoted text) := by
  rw [quoted]
  cases Quotation.ofText text <;> rfl

theorem starts_signed (negative : Bool) (nonempty : text ≠ [])
    (starts : ∀ char ∈ text, startsNumeral char = true) :
    Starts startsNumeral (signed negative text) := by
  cases negative with
  | true => rfl
  | false =>
    obtain ⟨char, more, rfl⟩ := List.exists_cons_of_ne_nil nonempty
    exact starts char (.head _)

end Starts

section Values

variable {depth : Nat} {text rest : List Char} {item : Value}

theorem startsNumeral_of_isDigit {char : Char} (digit : char.isDigit = true) :
    startsNumeral char = true := by
  simp [startsNumeral, digit]

theorem starts_integer (value : Int) : Starts startsNumeral (toString value).toList := by
  rw [toString_toList]
  refine starts_signed _ (digitsText_ne_nil _) fun char member => ?_
  exact startsNumeral_of_isDigit (allDigits_digitsText _ char member)

theorem starts_number {number : Float} (isNumber : number.isNaN = false) :
    Starts startsNumeral (numberStyle.chars number) := by
  cases finite : number.isFinite with
  | true =>
    obtain ⟨negative, whole, fraction, spelled, nonempty, -, areDigits, -⟩ :=
      numberStyle_chars_eq_signed finite
    have front : numberStyle.chars number =
        signed negative whole ++ pointed fraction := by
      rw [spelled]
      simp [signed, positional]
    rw [front]
    refine Starts.append (starts_signed negative nonempty fun char member => ?_) _
    exact startsNumeral_of_isDigit (areDigits char member)
  | false =>
    rw [(numberStyle_chars_of_infinite isNumber finite).1]
    cases isNegative number <;> rfl

/-- Several items stand on lines of their own. -/
theorem chars_array_lines (first second : Value) (others : List Value) :
    (Value.array (first :: second :: others)).chars =
      '[' :: (Value.lines (first :: second :: others) ++ ['\n', ']']) := by
  rw [Value.chars]
  · simp
  · exact List.cons_ne_nil first (second :: others)
  · rintro item ⟨⟩

/-- An array starts with a bracket. -/
theorem chars_array_eq_cons (items : List Value) :
    ∃ more, (Value.array items).chars = '[' :: more := by
  match items with
  | [] => exact ⟨_, by rw [Value.chars]; rfl⟩
  | [item] => exact ⟨_, by rw [Value.chars]⟩
  | first :: second :: others => exact ⟨_, chars_array_lines first second others⟩

/-- Anything that is written starts like a value. -/
theorem Writable.starts (writable : Writable depth item) : Starts startsValue item.chars := by
  cases writable with
  | text value =>
    rw [Value.chars]
    refine (starts_quoted value.toList).mono fun char quote => ?_
    rcases Bool.or_eq_true_iff.mp quote with double | single
    · simp [startsValue, double]
    · simp [startsValue, single]
  | integer low high =>
    rw [Value.chars]
    exact (starts_integer _).mono fun char numeral => by simp [startsValue, numeral]
  | number isNumber =>
    rw [Value.chars]
    exact (starts_number isNumber).mono fun char numeral => by simp [startsValue, numeral]
  | @array _ items each =>
    obtain ⟨more, bracket⟩ := chars_array_eq_cons items
    rw [bracket]
    rfl

/-- What starts with no bracket or brace is no array and no table. -/
theorem value_of_stops (stops : Stops (fun char => char == '[' || char == '\x7b') text) :
    value depth text = require text (scalar? text) := by
  have noBracket : ∀ tail, text ≠ '[' :: tail := by
    rintro tail rfl
    cases stops
  have noBrace : ∀ tail, text ≠ '\x7b' :: tail := by
    rintro tail rfl
    cases stops
  rw [value]
  · exact fun tail _ => noBracket tail
  · exact fun tail _ => noBrace tail
  · exact fun _ tail _ => noBracket tail
  · exact fun _ tail _ => noBrace tail

theorem scalar?_of_starts (starts : Starts startsNumeral text) : scalar? text = numeric? text := by
  rw [scalar?]
  all_goals
    rintro rest rfl
    cases starts

theorem scalar?_quoted (written rest : List Char) :
    scalar? (quoted written ++ rest) = (text? (quoted written ++ rest)).map (·.map .text) := by
  rw [quoted]
  cases Quotation.ofText written <;> rfl

/-- A scalar that is taken from a text is the value that is read from it. -/
theorem reads_value_scalar (stops : Stops (fun char => char == '[' || char == '\x7b') text)
    (taken : Takes scalar? text item rest) : Reads (value depth) text item rest := by
  obtain ⟨found, read, same, left⟩ := taken
  exact ⟨found, by rw [value_of_stops stops, read]; rfl, same, left⟩

theorem reads_value_text (ends : EndsValue rest) (written : String) :
    Reads (value depth) (quoted written.toList ++ rest) (.text written) rest := by
  obtain ⟨found, read, same, left⟩ := takes_text? (ends.stops rfl rfl rfl) written.toList
  have starts := (starts_quoted written.toList).append rest
  refine reads_value_scalar (starts.stops fun char quote => ?_)
    ⟨found.map .text, by rw [scalar?_quoted, read]; rfl, ?_, left⟩
  · rcases Bool.or_eq_true_iff.mp quote with double | single
    · rw [beq_iff_eq.mp double]
      rfl
    · rw [beq_iff_eq.mp single]
      rfl
  · rw [Found.map, same, String.ofList_toList]

theorem stops_of_numeral (starts : Starts startsNumeral text) :
    Stops (fun char => char == '[' || char == '\x7b') text := by
  refine starts.stops fun char numeral => ?_
  rw [Bool.or_eq_false_iff, beq_eq_false_iff_ne, beq_eq_false_iff_ne]
  constructor <;> rintro rfl <;> cases numeral

theorem reads_value_integer {number : Int} (low : -(signBit : Int) ≤ number)
    (high : number < signBit) (ends : EndsValue rest) :
    Reads (value depth) ((toString number).toList ++ rest) (.integer number) rest := by
  have starts := (starts_integer number).append rest
  obtain ⟨found, read, same, left⟩ := takes_integer? low high ends
  refine reads_value_scalar (stops_of_numeral starts)
    ⟨found.map .integer, ?_, congrArg Value.integer same, left⟩
  rw [scalar?_of_starts starts, numeric?, moment?_eq_none (undated_integer ends number),
    float?_integer ends, read]
  rfl

theorem reads_value_number {number : Float} (isNumber : number.isNaN = false)
    (ends : EndsValue rest) :
    Reads (value depth) (numberStyle.chars number ++ rest) (.number number) rest := by
  have starts := (starts_number isNumber).append rest
  obtain ⟨found, read, same, left⟩ := takes_float? isNumber ends
  refine reads_value_scalar (stops_of_numeral starts)
    ⟨found.map .number, ?_, congrArg Value.number same, left⟩
  rw [scalar?_of_starts starts, numeric?, moment?_eq_none (undated_number isNumber rest), read]
  rfl

theorem reads_value_array {items : List Value}
    (reads : Reads (arrayItems (value depth)) text items rest) :
    Reads (value (depth + 1)) ('[' :: text) (.array items) rest := by
  obtain ⟨found, read, rfl, left⟩ := reads
  rw [Reads, value, read]
  exact ⟨_, rfl, rfl, left⟩

/-- No value starts with a gap. -/
theorem Writable.opens (writable : Writable depth item) (rest : List Char) :
    Opens (item.chars ++ rest) := by
  refine (writable.starts.append rest).stops fun char start => ?_
  simp only [isBlank, Bool.or_eq_false_iff, beq_eq_false_iff_ne]
  refine ⟨⟨⟨⟨?_, ?_⟩, ?_⟩, ?_⟩, ?_⟩
  all_goals
    rintro rfl
    cases start

/-- No value starts with the bracket that closes an array. -/
theorem Writable.notClosed (writable : Writable depth item) (rest : List Char) :
    Stops (· == ']') (item.chars ++ rest) := by
  refine (writable.starts.append rest).stops fun char start => ?_
  rw [beq_eq_false_iff_ne]
  rintro rfl
  cases start

/-- Items on lines of their own are read as the items. -/
theorem reads_lines {items : List Value} (each : ∀ item ∈ items, Writable depth item)
    (reads : ∀ item ∈ items, ∀ {rest : List Char}, EndsValue rest →
      Reads (value depth) (item.chars ++ rest) item rest) (rest : List Char) :
    Reads (arrayItems (value depth)) (Value.lines items ++ '\n' :: ']' :: rest) items rest := by
  induction items with
  | nil =>
    refine reads_arrayItems_end ?_
    rw [Value.lines, List.nil_append, skipGap_newline, skipGap_eq_self rfl]
  | cons first others ih =>
    obtain ⟨more, same⟩ : ∃ more, more = Value.lines others ++ '\n' :: ']' :: rest := ⟨_, rfl⟩
    have shape : Value.lines (first :: others) ++ '\n' :: ']' :: rest =
        '\n' :: ([' ', ' ', ' ', ' '] ++ (first.chars ++ ',' :: more)) := by
      rw [Value.lines, same]
      simp
    have opens := (each first (.head _)).opens (',' :: more)
    have gap : skipGap ('\n' :: ([' ', ' ', ' ', ' '] ++ (first.chars ++ ',' :: more))) =
        first.chars ++ ',' :: more := by
      rw [skipGap_newline]
      exact skipGap_blanks (by simp [isBlank]) opens
    rw [shape]
    refine reads_arrayItems_more gap ((each first (.head _)).notClosed (',' :: more))
      (reads first (.head _) rfl) (skipGap_eq_self rfl) ?_
    rw [same]
    exact ih (fun item member => each item (.tail _ member))
      fun item member => reads item (.tail _ member)

/-- What is written is read as what it was written for. -/
theorem reads_value (writable : Writable depth item) (ends : EndsValue rest) :
    Reads (value depth) (item.chars ++ rest) item rest := by
  induction writable generalizing rest with
  | text written =>
    rw [Value.chars]
    exact reads_value_text ends written
  | integer low high =>
    rw [Value.chars]
    exact reads_value_integer low high ends
  | number isNumber =>
    rw [Value.chars]
    exact reads_value_number isNumber ends
  | @array depth items each ih =>
    match items with
    | [] =>
      rw [Value.chars]
      exact reads_value_array (reads_arrayItems_end (skipGap_eq_self rfl))
    | [item] =>
      have single := each item (.head _)
      rw [Value.chars, List.cons_append, List.append_assoc]
      exact reads_value_array (reads_arrayItems_last
        (skipGap_eq_self (single.opens _)) (single.notClosed _)
        (ih item (.head _) rfl) (skipGap_eq_self rfl))
    | first :: second :: others =>
      have shape : (Value.array (first :: second :: others)).chars ++ rest =
          '[' :: (Value.lines (first :: second :: others) ++ '\n' :: ']' :: rest) := by
        rw [chars_array_lines]
        simp
      rw [shape]
      exact reads_value_array (reads_lines each ih rest)

end Values

end Lamplight.Toml
