import Mathlib.Data.List.DropRight
import Mathlib.Data.List.SplitBy
import Mathlib.Data.List.TakeWhile
import Mathlib.Tactic.IntervalCases
import Lamplight.Proofs.Text.Splitting
import Lamplight.Toml.Text
import Lamplight.Toml.Writer

/-!
# Reading back texts and keys

A text is quoted in one of four ways, and each is read by a function of its own.  What is written
between the quotes is read as the text, whatever characters it is made of: in the two kinds that
have escapes every character is one of a few cases (`escape_cases`), and the two kinds that have
none are only used for texts that can do without them.
-/

namespace Lamplight.Toml

open Text

variable {α : Type}

/-- The piece reads a value from the start of a text and leaves a rest. -/
def Takes (piece : Piece? α) (text : List Char) (value : α) (rest : List Char) : Prop :=
  ∃ found, piece text = some found ∧ found.value = value ∧ found.rest = rest

/-! ## Characters and their escapes -/

theorem isPlain_of_isControl {char : Char} (visible : isControl char = false) :
    isPlain char = true := by
  simp only [isControl, isPlain, Bool.or_eq_false_iff, Bool.and_eq_false_iff,
    decide_eq_false_iff_not, bne_eq_false_iff_eq, beq_eq_false_iff_ne, Bool.or_eq_true,
    Bool.and_eq_true, decide_eq_true_eq, beq_iff_eq] at visible ⊢
  have last : char.toNat ≠ 0x7F := by
    intro equal
    exact visible.2 (Char.toNat_inj.mp equal)
  rcases visible.1 with above | tab
  · exact .inr ⟨Nat.le_of_not_lt above, last⟩
  · exact .inl tab

theorem hexDigit?_hexDigit {value : Nat} (small : value < 16) :
    hexDigit? (hexDigit value) = some value := by
  interval_cases value <;> rfl

theorem toNat_lt_of_isControl {char : Char} (control : isControl char = true) :
    char.toNat < 256 := by
  simp only [isControl, Bool.or_eq_true, Bool.and_eq_true, decide_eq_true_eq, beq_iff_eq] at control
  rcases control with ⟨below, -⟩ | rfl
  · omega
  · decide

/-- The four digits of a control character are read as the character. -/
theorem codePoint?_control {char : Char} (control : isControl char = true) (rest : List Char) :
    codePoint? 4 ('0' :: '0' :: hexDigit (char.toNat / 16) :: hexDigit (char.toNat % 16) :: rest) =
      some (char, rest) := by
  have bound := toNat_lt_of_isControl control
  have zero : hexDigit? '0' = some 0 := rfl
  have high : hexDigit? (hexDigit (char.toNat / 16)) = some (char.toNat / 16) :=
    hexDigit?_hexDigit (by omega)
  have low : hexDigit? (hexDigit (char.toNat % 16)) = some (char.toNat % 16) :=
    hexDigit?_hexDigit (by omega)
  have code : 16 * (char.toNat / 16) + char.toNat % 16 = char.toNat := Nat.div_add_mod ..
  have valid : char.toNat.isValidChar := char.valid
  simp [codePoint?, zero, high, low, code, valid]

/-- Between double quotes a character stands for itself, or it is written with a backslash behind
which no line ends. -/
theorem escape_cases (char : Char) :
    (escape char = [char] ∧ isPlain char = true ∧ char ≠ '"' ∧ char ≠ '\\') ∨
      ∃ mark, escape char = '\\' :: mark ∧ ∀ rest, escape? (mark ++ rest) = some (char, rest) ∧
        newline? (skipBlanks (mark ++ rest)) = none := by
  rw [escape]
  split_ifs with lineBreak backspace tab feed carriage quote backslash control
  · exact .inr ⟨['n'], rfl, fun rest => ⟨by rw [lineBreak]; rfl, rfl⟩⟩
  · exact .inr ⟨['b'], rfl, fun rest => ⟨by rw [backspace]; rfl, rfl⟩⟩
  · exact .inr ⟨['t'], rfl, fun rest => ⟨by rw [tab]; rfl, rfl⟩⟩
  · exact .inr ⟨['f'], rfl, fun rest => ⟨by rw [feed]; rfl, rfl⟩⟩
  · exact .inr ⟨['r'], rfl, fun rest => ⟨by rw [carriage]; rfl, rfl⟩⟩
  · exact .inr ⟨['"'], rfl, fun rest => ⟨by rw [quote]; rfl, rfl⟩⟩
  · exact .inr ⟨['\\'], rfl, fun rest => ⟨by rw [backslash]; rfl, rfl⟩⟩
  · exact .inr ⟨_, rfl, fun rest => ⟨codePoint?_control control rest, rfl⟩⟩
  · exact .inl ⟨rfl, isPlain_of_isControl (Bool.eq_false_iff.mpr control), quote, backslash⟩

/-! ## One line between double quotes -/

section Basic

variable {text value rest : List Char} {char : Char}

theorem takes_basicBody?_quote (rest : List Char) : Takes basicBody? ('"' :: rest) [] rest := by
  rw [Takes, basicBody?]
  exact ⟨_, rfl, rfl, rfl⟩

theorem takes_basicBody?_plain (plain : isPlain char = true) (quote : char ≠ '"')
    (backslash : char ≠ '\\') (inside : Takes basicBody? text value rest) :
    Takes basicBody? (char :: text) (char :: value) rest := by
  obtain ⟨found, read, rfl, rfl⟩ := inside
  rw [Takes, basicBody?]
  · rw [if_pos plain, read]
    exact ⟨_, rfl, rfl, rfl⟩
  · exact quote
  · exact backslash

theorem takes_basicBody?_escape {marked : List Char} (escaped : escape? marked = some (char, text))
    (inside : Takes basicBody? text value rest) :
    Takes basicBody? ('\\' :: marked) (char :: value) rest := by
  obtain ⟨found, read, rfl, rfl⟩ := inside
  rw [Takes, basicBody?]
  split
  · next failed => cases escaped.symm.trans failed
  · next again reread =>
    cases escaped.symm.trans reread
    rw [read]
    exact ⟨_, rfl, rfl, rfl⟩

/-- Escaped characters are read up to the quote behind them. -/
theorem takes_basicBody? (text rest : List Char) :
    Takes basicBody? (text.flatMap escape ++ '"' :: rest) text rest := by
  induction text with
  | nil => exact takes_basicBody?_quote rest
  | cons char more ih =>
    rw [List.flatMap_cons, List.append_assoc]
    rcases escape_cases char with ⟨same, plain, quote, backslash⟩ | ⟨mark, escaped, reads⟩
    · rw [same]
      exact takes_basicBody?_plain plain quote backslash ih
    · rw [escaped]
      exact takes_basicBody?_escape (reads _).1 ih

end Basic

/-! ## One line between single quotes -/

/-- A text that can do without escapes is read up to the quote behind it. -/
theorem takes_literalBody? {text : List Char} (plain : ∀ char ∈ text, isPlain char = true)
    (quote : '\'' ∉ text) (rest : List Char) :
    Takes literalBody? (text ++ '\'' :: rest) text rest := by
  induction text with
  | nil => exact ⟨.head [], rfl, rfl, rfl⟩
  | cons char more ih =>
    rw [List.forall_mem_cons] at plain
    rw [List.mem_cons, not_or] at quote
    obtain ⟨found, read, value, left⟩ := ih plain.2 quote.2
    rw [Takes, List.cons_append, literalBody?]
    · rw [if_pos plain.1, read]
      exact ⟨_, rfl, congrArg (char :: ·) value, left⟩
    · exact Ne.symm quote.1

/-! ## The end of a text between triple quotes -/

section Closing

variable {quote : Char} {rest : List Char}

/-- Three quotes end a text, and up to two quotes before them belong to it. -/
theorem takes_closing? {count : Nat} (few : count ≤ 2) (stops : Stops (· == quote) rest) :
    Takes (closing? quote) (List.replicate count quote ++ quote :: quote :: quote :: rest)
      (List.replicate count quote) rest := by
  have other : ∀ {char more}, rest = char :: more → char ≠ quote := by
    rintro char more rfl
    exact beq_eq_false_iff_ne.mp stops
  match count, few with
  | 0, _ =>
    refine ⟨(Found.head []).behind.behind, ?_, rfl, rfl⟩
    rcases rest with _ | ⟨first, _ | ⟨second, more⟩⟩
    · simp [closing?]
    · simp [closing?, other rfl]
    · simp [closing?, other rfl]
  | 1, _ =>
    refine ⟨(Found.head [quote]).behind.behind.behind, ?_, rfl, rfl⟩
    cases rest with
    | nil => simp [closing?]
    | cons first more => simp [closing?, other rfl]
  | 2, _ => exact ⟨(Found.head [quote, quote]).behind.behind.behind.behind, by simp [closing?],
      rfl, rfl⟩

/-- Without three quotes at its start, a text does not end there. -/
theorem closing?_eq_none {text : List Char} (open_ : ¬[quote, quote, quote] <+: text) :
    closing? quote text = none := by
  rcases text with _ | ⟨first, _ | ⟨second, _ | ⟨third, more⟩⟩⟩
  · rfl
  · rfl
  · rfl
  · refine if_neg ?_
    rintro ⟨rfl, rfl, rfl⟩
    exact open_ ⟨more, rfl⟩

end Closing

/-! ## Several lines between triple double quotes -/

section LongBasic

variable {text value rest : List Char} {char : Char}

theorem takes_longBasicBody?_closed (closed : Takes (closing? '"') text value rest) :
    Takes longBasicBody? text value rest := by
  obtain ⟨found, read, rfl, rfl⟩ := closed
  refine ⟨found, ?_, rfl, rfl⟩
  rw [longBasicBody?.eq_def, read]

theorem takes_longBasicBody?_plain (open_ : closing? '"' (char :: text) = none)
    (plain : (isPlain char || char = '\n') = true) (backslash : char ≠ '\\')
    (inside : Takes longBasicBody? text value rest) :
    Takes longBasicBody? (char :: text) (char :: value) rest := by
  obtain ⟨found, read, rfl, rfl⟩ := inside
  have carriage : char ≠ '\r' := by
    rintro rfl
    cases plain
  rw [Takes, longBasicBody?, open_]
  · simp only [if_pos plain, read]
    exact ⟨_, rfl, rfl, rfl⟩
  · exact backslash
  · intro _ equal
    exact absurd equal carriage

theorem takes_longBasicBody?_escape {marked : List Char}
    (unjoined : newline? (skipBlanks marked) = none) (escaped : escape? marked = some (char, text))
    (inside : Takes longBasicBody? text value rest) :
    Takes longBasicBody? ('\\' :: marked) (char :: value) rest := by
  obtain ⟨found, read, rfl, rfl⟩ := inside
  have open_ : closing? '"' ('\\' :: marked) = none := by
    apply closing?_eq_none
    rintro ⟨more, equal⟩
    cases equal
  rw [Takes, longBasicBody?, open_]
  split
  · next equal => cases equal
  · next equal =>
    cases equal
    split
    · next joined => cases unjoined.symm.trans joined
    · split
      · next failed => cases escaped.symm.trans failed
      · next again reread =>
        cases escaped.symm.trans reread
        rw [read]
        exact ⟨_, rfl, rfl, rfl⟩

/-- A character between triple quotes is one of the first two quotes in a row, or it stands for
itself, or it is written with a backslash behind which no line ends. -/
theorem escapeTriple_cases (quotes : Nat) (char : Char) (more : List Char) :
    (char = '"' ∧ quotes < 2 ∧
      escapeTriple quotes (char :: more) = '"' :: escapeTriple (quotes + 1) more) ∨
    (char ≠ '"' ∧ char ≠ '\\' ∧ (isPlain char || char = '\n') = true ∧
      escapeTriple quotes (char :: more) = char :: escapeTriple 0 more) ∨
    ∃ mark, escapeTriple quotes (char :: more) = '\\' :: (mark ++ escapeTriple 0 more) ∧
      ∀ rest, escape? (mark ++ rest) = some (char, rest) ∧
        newline? (skipBlanks (mark ++ rest)) = none := by
  by_cases lineBreak : char = '\n'
  · subst lineBreak
    exact .inr (.inl ⟨by decide, by decide, rfl, by rw [escapeTriple]⟩)
  by_cases quote : char = '"'
  · subst quote
    rw [escapeTriple]
    by_cases room : quotes < 2
    · exact .inl ⟨rfl, room, if_pos room⟩
    · exact .inr (.inr ⟨['"'], if_neg room, fun rest => ⟨rfl, rfl⟩⟩)
  · have written : escapeTriple quotes (char :: more) = escape char ++ escapeTriple 0 more := by
      rw [escapeTriple]
      · exact lineBreak
      · exact quote
    rw [written]
    rcases escape_cases char with ⟨same, plain, -, backslash⟩ | ⟨mark, escaped, reads⟩
    · rw [same]
      exact .inr (.inl ⟨quote, backslash, by rw [plain]; rfl, rfl⟩)
    · rw [escaped]
      exact .inr (.inr ⟨mark, rfl, reads⟩)

/-- Where the third quote in a row stands, the text ends: it has only the quotes before the closing
ones left.  So many `quotes` have been written before. -/
theorem escapeTriple_run {quotes : Nat} (few : quotes ≤ 2)
    (run : List.replicate (3 - quotes) '"' <+:
      escapeTriple quotes text ++ '"' :: '"' :: '"' :: rest) :
    ∃ count, count + quotes ≤ 2 ∧ text = List.replicate count '"' ∧
      escapeTriple quotes text = List.replicate count '"' := by
  induction text generalizing quotes with
  | nil => exact ⟨0, by omega, rfl, rfl⟩
  | cons char more ih =>
    have next : 3 - quotes = 3 - (quotes + 1) + 1 := by omega
    rw [next, List.replicate_succ] at run
    rcases escapeTriple_cases quotes char more with
      ⟨rfl, room, written⟩ | ⟨quote, -, -, written⟩ | ⟨mark, written, -⟩
    · rw [written, List.cons_append, List.cons_prefix_cons] at run
      obtain ⟨count, fewer, same, output⟩ := ih (by omega) run.2
      exact ⟨count + 1, by omega, congrArg ('"' :: ·) same,
        written.trans (congrArg ('"' :: ·) output)⟩
    · rw [written, List.cons_append, List.cons_prefix_cons] at run
      exact absurd run.1.symm quote
    · rw [written, List.cons_append, List.cons_prefix_cons] at run
      cases run.1

/-- Characters between triple quotes are read up to the quotes behind them. -/
theorem takes_longBasicBody? {quotes : Nat} (few : quotes ≤ 2) (stops : Stops (· == '"') rest)
    (text : List Char) :
    Takes longBasicBody? (escapeTriple quotes text ++ '"' :: '"' :: '"' :: rest) text rest := by
  induction text generalizing quotes with
  | nil => exact takes_longBasicBody?_closed (takes_closing? (Nat.zero_le 2) stops)
  | cons char more ih =>
    by_cases run : ['"', '"', '"'] <+:
        escapeTriple quotes (char :: more) ++ '"' :: '"' :: '"' :: rest
    · have shorter : List.replicate (3 - quotes) '"' <+: ['"', '"', '"'] :=
        ⟨List.replicate quotes '"', by
          rw [List.replicate_append_replicate, Nat.sub_add_cancel (by omega)]; rfl⟩
      obtain ⟨count, fewer, same, output⟩ := escapeTriple_run few (shorter.trans run)
      rw [output, same]
      exact takes_longBasicBody?_closed (takes_closing? (by omega) stops)
    · have open_ := closing?_eq_none run
      rcases escapeTriple_cases quotes char more with
        ⟨rfl, room, written⟩ | ⟨quote, backslash, plain, written⟩ | ⟨mark, written, reads⟩
      · rw [written] at open_ ⊢
        exact takes_longBasicBody?_plain open_ rfl (by decide) (ih (by omega))
      · rw [written] at open_ ⊢
        exact takes_longBasicBody?_plain open_ plain backslash (ih (Nat.zero_le 2))
      · rw [written, List.cons_append, List.append_assoc]
        exact takes_longBasicBody?_escape (reads _).2 (reads _).1 (ih (Nat.zero_le 2))

end LongBasic

/-! ## Several lines between triple single quotes -/

/-- Where three quotes stand in a row, they are the closing ones, or the text is made of a few
quotes before them. -/
theorem eq_replicate_of_prefix {quote : Char} {text rest : List Char}
    (apart : ¬[quote, quote, quote] <:+: text)
    (run : [quote, quote, quote] <+: text ++ quote :: quote :: quote :: rest) :
    ∃ count ≤ 2, text = List.replicate count quote := by
  rcases text with _ | ⟨first, _ | ⟨second, _ | ⟨third, more⟩⟩⟩
  · exact ⟨0, by omega, rfl⟩
  · have same := (List.cons_prefix_cons.mp run).1
    exact ⟨1, by omega, by rw [same]; rfl⟩
  · obtain ⟨same, run⟩ := List.cons_prefix_cons.mp run
    have next := (List.cons_prefix_cons.mp run).1
    exact ⟨2, by omega, by rw [← same, ← next]; rfl⟩
  · refine absurd (List.IsPrefix.isInfix ?_) apart
    exact List.prefix_of_prefix_length_le run (List.prefix_append _ _) (by simp)

section LongLiteral

variable {text value rest : List Char} {char : Char}

theorem takes_longLiteralBody?_closed (closed : Takes (closing? '\'') text value rest) :
    Takes longLiteralBody? text value rest := by
  obtain ⟨found, read, rfl, rfl⟩ := closed
  refine ⟨found, ?_, rfl, rfl⟩
  rw [longLiteralBody?.eq_def, read]

theorem takes_longLiteralBody?_plain (open_ : closing? '\'' (char :: text) = none)
    (plain : (isPlain char || char = '\n') = true)
    (inside : Takes longLiteralBody? text value rest) :
    Takes longLiteralBody? (char :: text) (char :: value) rest := by
  obtain ⟨found, read, rfl, rfl⟩ := inside
  rw [Takes, longLiteralBody?, open_]
  · simp only [if_pos plain, read]
    exact ⟨_, rfl, rfl, rfl⟩
  · rintro _ rfl
    cases plain

/-- A text that can do without escapes, and that has no three quotes in a row, is read up to the
quotes behind it. -/
theorem takes_longLiteralBody? (plain : ∀ char ∈ text, (isPlain char || char = '\n') = true)
    (apart : ¬['\'', '\'', '\''] <:+: text) (stops : Stops (· == '\'') rest) :
    Takes longLiteralBody? (text ++ '\'' :: '\'' :: '\'' :: rest) text rest := by
  induction text with
  | nil => exact takes_longLiteralBody?_closed (takes_closing? (Nat.zero_le 2) stops)
  | cons char more ih =>
    by_cases run : ['\'', '\'', '\''] <+: char :: more ++ '\'' :: '\'' :: '\'' :: rest
    · obtain ⟨count, few, same⟩ := eq_replicate_of_prefix apart run
      rw [same]
      exact takes_longLiteralBody?_closed (takes_closing? few stops)
    · rw [List.forall_mem_cons] at plain
      refine takes_longLiteralBody?_plain (closing?_eq_none run) plain.1 (ih plain.2 ?_)
      exact fun inside => apart (inside.trans (List.suffix_cons char more).isInfix)

end LongLiteral

/-! ## Runs of one character -/

/-- Equal characters in a row belong to one run of a text. -/
theorem exists_run (char : Char) (front back : List Char) {count : Nat} (positive : 0 < count) :
    ∃ run ∈ (front ++ (List.replicate count char ++ back)).splitBy fun left right => left == right,
      run.head? = some char ∧ count ≤ run.length := by
  let same : Char → Bool := fun other => other == char
  let run := front.rtakeWhile same ++ (List.replicate count char ++ back.takeWhile same)
  have every : ∀ other ∈ run, other = char := by
    intro other member
    simp only [run, List.mem_append, List.mem_replicate] at member
    rcases member with before | inside | behind
    · exact beq_iff_eq.mp (List.mem_rtakeWhile_imp (p := same) before)
    · exact inside.2
    · exact beq_iff_eq.mp (List.mem_takeWhile_imp (p := same) behind)
  have whole : front ++ (List.replicate count char ++ back) =
      front.rdropWhile same ++ (run ++ back.dropWhile same) := by
    have before : front.rdropWhile same ++ front.rtakeWhile same = front :=
      List.rdropWhile_append_rtakeWhile
    have behind : back.takeWhile same ++ back.dropWhile same = back :=
      List.takeWhile_append_dropWhile
    simp only [run, List.append_assoc]
    rw [behind, ← List.append_assoc (front.rdropWhile same), before]
  have length : count ≤ run.length := by
    simp only [run, List.length_append, List.length_replicate]
    omega
  have nonempty : run ≠ [] := List.length_pos_iff.mp (Nat.lt_of_lt_of_le positive length)
  have head : run.head? = some char :=
    (List.head?_eq_some_head nonempty).trans (congrArg some (every _ (List.head_mem nonempty)))
  have constant : run.splitBy (fun left right => left == right) = [run] := by
    refine List.splitBy_of_isChain nonempty ?_
    rw [List.eq_replicate_of_mem every]
    exact List.isChain_replicate_of_rel _ BEq.rfl
  refine ⟨run, ?_, head, length⟩
  rw [whole, List.splitBy_append, List.splitBy_append, constant]
  · simp
  · intro last lastIn first firstIn
    rw [every last (List.mem_of_getLast? lastIn)]
    have other := List.head?_dropWhile_not same back
    rw [Option.mem_def.mp firstIn] at other
    exact (Bool.beq_comm).trans other
  · intro last lastIn first firstIn
    rw [List.head?_append_of_ne_nil _ nonempty, head] at firstIn
    cases firstIn
    have inside := List.ne_nil_of_mem (List.mem_of_getLast? lastIn)
    have other := List.rdropWhile_last_not same front inside
    rw [List.getLast_of_mem_getLast? lastIn] at other
    exact Bool.eq_false_iff.mpr other

/-- The longest run is at least as long as each of them. -/
theorem length_le_longestRun {char : Char} {text run : List Char}
    (member : run ∈ text.splitBy fun left right => left == right)
    (head : run.head? = some char) : run.length ≤ longestRun char text := by
  have bounds : ∀ (runs : List (List Char)) (start : Nat),
      let longest := runs.foldl (fun longest run =>
        if run.head? == some char then max longest run.length else longest) start
      start ≤ longest ∧ (run ∈ runs → run.length ≤ longest) := by
    intro runs
    induction runs with
    | nil => exact fun start => ⟨Nat.le_refl start, fun inside => absurd inside List.not_mem_nil⟩
    | cons first rest ih =>
      intro start
      obtain ⟨above, later⟩ :=
        ih (if first.head? == some char then max start first.length else start)
      refine ⟨Nat.le_trans ?_ above, fun inside => ?_⟩
      · split
        · exact Nat.le_max_left _ _
        · exact Nat.le_refl start
      · rcases List.mem_cons.mp inside with rfl | inRest
        · refine Nat.le_trans ?_ above
          rw [head, if_pos (beq_self_eq_true _)]
          exact Nat.le_max_right _ _
        · exact later inRest
  exact (bounds _ 0).2 member

/-- A text whose longest run is short has no three of the character in a row. -/
theorem not_infix_of_longestRun {char : Char} {text : List Char}
    (short : longestRun char text < 3) : ¬[char, char, char] <:+: text := by
  rintro ⟨front, back, rfl⟩
  rw [List.append_assoc] at short
  obtain ⟨run, member, head, long⟩ :=
    exists_run char front back (Nat.zero_lt_succ 2)
  exact Nat.not_le.mpr short (Nat.le_trans long (length_le_longestRun member head))

/-! ## Texts and keys -/

/-- Whether a text does not go on with a quote. -/
abbrev EndsText (rest : List Char) : Prop := Stops (fun char => char == '"' || char == '\'') rest

theorem newline?_eq_none {char : Char} (plain : isPlain char = true) (more : List Char) :
    newline? (char :: more) = none := by
  rw [newline?]
  · rintro _ ⟨⟩
    cases plain
  · rintro _ ⟨⟩
    cases plain

section Quoted

variable {text rest : List Char}

theorem stops_of_quote {quote : Char} (isQuote : (quote == '"' || quote == '\'') = true)
    (ends : EndsText rest) : Stops (· == quote) rest := by
  refine ends.mono fun char same => ?_
  rw [beq_iff_eq.mp same]
  exact isQuote

/-- The line break behind opening triple quotes is left out, and nothing else is. -/
theorem skipNewline_leadingBreak {written : List Char}
    (same : '\n' ∉ text → newline? written = none) :
    skipNewline (leadingBreak text ++ written) = written := by
  rw [leadingBreak]
  split
  · rfl
  · next single =>
    rw [List.nil_append, skipNewline, same (by simpa using single)]

theorem quote_basic_append (text rest : List Char) :
    Quotation.basic.quote text ++ rest = '"' :: (text.flatMap escape ++ '"' :: rest) := by
  simp [Quotation.quote]

theorem quote_literal_append (text rest : List Char) :
    Quotation.literal.quote text ++ rest = '\'' :: (text ++ '\'' :: rest) := by
  simp [Quotation.quote]

theorem takes_text?_basic (ends : EndsText rest) (text : List Char) :
    Takes text? (Quotation.basic.quote text ++ rest) (String.ofList text) rest := by
  obtain ⟨found, read, value, left⟩ := takes_basicBody? text rest
  have apart : ∀ more, text.flatMap escape ++ '"' :: rest ≠ '"' :: '"' :: more := by
    intro more equal
    cases text with
    | nil =>
      have quotes := (List.cons_eq_cons.mp equal).2
      rw [quotes] at ends
      cases ends
    | cons char others =>
      rw [List.flatMap_cons] at equal
      rcases escape_cases char with ⟨same, -, quote, -⟩ | ⟨mark, escaped, -⟩
      · rw [same] at equal
        exact quote (List.cons_eq_cons.mp equal).1
      · rw [escaped] at equal
        cases equal
  rw [Takes, quote_basic_append, text?, read]
  · exact ⟨_, rfl, congrArg String.ofList value, left⟩
  · exact apart

theorem takes_text?_literal (ends : EndsText rest) (plain : ∀ char ∈ text, isPlain char = true)
    (quote : '\'' ∉ text) :
    Takes text? (Quotation.literal.quote text ++ rest) (String.ofList text) rest := by
  obtain ⟨found, read, value, left⟩ := takes_literalBody? plain quote rest
  have apart : ∀ more, text ++ '\'' :: rest ≠ '\'' :: '\'' :: more := by
    intro more equal
    cases text with
    | nil =>
      have quotes := (List.cons_eq_cons.mp equal).2
      rw [quotes] at ends
      cases ends
    | cons char others =>
      rw [(List.cons_eq_cons.mp equal).1] at quote
      exact quote List.mem_cons_self
  rw [Takes, quote_literal_append, text?, read]
  · exact ⟨_, rfl, congrArg String.ofList value, left⟩
  · exact apart

theorem takes_text?_basicTriple (ends : EndsText rest) (text : List Char) :
    Takes text? (Quotation.basicTriple.quote text ++ rest) (String.ofList text) rest := by
  have same : '\n' ∉ text →
      newline? (escapeTriple 0 text ++ '"' :: '"' :: '"' :: rest) = none := by
    intro single
    cases text with
    | nil => rfl
    | cons char others =>
      rcases escapeTriple_cases 0 char others with
        ⟨-, -, written⟩ | ⟨-, -, plain, written⟩ | ⟨mark, written, -⟩
      · rw [written]
        rfl
      · have other : char ≠ '\n' := fun equal => single (equal ▸ List.mem_cons_self)
        rw [written, List.cons_append, newline?_eq_none]
        simpa [other] using plain
      · rw [written]
        rfl
  have inside := takes_longBasicBody? (Nat.zero_le 2) (stops_of_quote rfl ends) text
  rw [← skipNewline_leadingBreak same] at inside
  obtain ⟨found, read, value, left⟩ := inside
  have shape : Quotation.basicTriple.quote text ++ rest = '"' :: '"' :: '"' ::
      (leadingBreak text ++ (escapeTriple 0 text ++ '"' :: '"' :: '"' :: rest)) := by
    simp [Quotation.quote]
  rw [Takes, shape, text?, read]
  exact ⟨_, rfl, congrArg String.ofList value, left⟩

theorem takes_text?_literalTriple (ends : EndsText rest)
    (plain : ∀ char ∈ text, (isPlain char || char = '\n') = true)
    (apart : ¬['\'', '\'', '\''] <:+: text) :
    Takes text? (Quotation.literalTriple.quote text ++ rest) (String.ofList text) rest := by
  have same : '\n' ∉ text → newline? (text ++ '\'' :: '\'' :: '\'' :: rest) = none := by
    intro single
    cases text with
    | nil => rfl
    | cons char others =>
      have other : char ≠ '\n' := fun equal => single (equal ▸ List.mem_cons_self)
      refine newline?_eq_none ?_ _
      simpa [other] using plain char List.mem_cons_self
  have inside := takes_longLiteralBody? plain apart (stops_of_quote rfl ends)
  rw [← skipNewline_leadingBreak same] at inside
  obtain ⟨found, read, value, left⟩ := inside
  have shape : Quotation.literalTriple.quote text ++ rest = '\'' :: '\'' :: '\'' ::
      (leadingBreak text ++ (text ++ '\'' :: '\'' :: '\'' :: rest)) := by
    simp [Quotation.quote]
  rw [Takes, shape, text?, read]
  exact ⟨_, rfl, congrArg String.ofList value, left⟩

/-- A text that needs no escapes has no characters but plain ones and line breaks. -/
theorem plain_of_needsEscapes (plain : needsEscapes text = false) :
    ∀ char ∈ text, (isPlain char || char = '\n') = true := by
  intro char member
  rw [needsEscapes, List.any_eq_false] at plain
  by_cases lineBreak : char = '\n'
  · simp [lineBreak]
  · have visible : isControl char = false := by simpa [lineBreak] using plain char member
    rw [isPlain_of_isControl visible]
    rfl

/-- A text between quotes is read as the text. -/
theorem takes_text? (ends : EndsText rest) (text : List Char) :
    Takes text? (quoted text ++ rest) (String.ofList text) rest := by
  rw [quoted, Quotation.ofText]
  split_ifs with basic literal basicTriple literalTriple severalLines
  · exact takes_text?_basic ends text
  · simp only [Bool.and_eq_true, Bool.not_eq_true', List.contains_eq_mem,
      decide_eq_false_iff_not] at literal
    obtain ⟨⟨plain, single⟩, quote⟩ := literal
    refine takes_text?_literal ends (fun char member => ?_) quote
    have other : char ≠ '\n' := fun equal => single (equal ▸ member)
    simpa [other] using plain_of_needsEscapes plain char member
  · exact takes_text?_basicTriple ends text
  · simp only [Bool.and_eq_true, Bool.not_eq_true', decide_eq_true_eq] at literalTriple
    exact takes_text?_literalTriple ends (plain_of_needsEscapes literalTriple.1)
      (not_infix_of_longestRun literalTriple.2)
  · exact takes_text?_basicTriple ends text
  · exact takes_text?_basic ends text

end Quoted

/-- Whether a text does not go on with a character of a key. -/
abbrev EndsKey (rest : List Char) : Prop := Stops isBare rest

theorem isBare_eq (char : Char) : isBareChar char = isBare char := by
  rw [isBareChar, isBare, Bool.or_right_comm]

theorem takes_simpleKey?_bare {rest : List Char} (ends : EndsKey rest) {text : List Char}
    (nonempty : text ≠ []) (bare : ∀ char ∈ text, isBare char = true) :
    Takes simpleKey? (text ++ rest) (String.ofList text) rest := by
  cases text with
  | nil => exact absurd rfl nonempty
  | cons char more =>
    rw [List.forall_mem_cons] at bare
    have split := Split.span_eq bare.2 ends
    rw [Takes, List.cons_append, simpleKey?, if_pos bare.1]
    · refine ⟨_, rfl, ?_, ?_⟩
      · exact congrArg (fun split => String.ofList (char :: split.front)) split
      · exact congrArg Split.rest split
    · rintro rfl
      cases bare.1
    · rintro rfl
      cases bare.1

theorem takes_simpleKey?_basic (text rest : List Char) :
    Takes simpleKey? (Quotation.basic.quote text ++ rest) (String.ofList text) rest := by
  obtain ⟨found, read, value, left⟩ := takes_basicBody? text rest
  rw [Takes, quote_basic_append, simpleKey?, read]
  exact ⟨_, rfl, congrArg String.ofList value, left⟩

theorem takes_simpleKey?_literal {text : List Char} (plain : ∀ char ∈ text, isPlain char = true)
    (quote : '\'' ∉ text) (rest : List Char) :
    Takes simpleKey? (Quotation.literal.quote text ++ rest) (String.ofList text) rest := by
  obtain ⟨found, read, value, left⟩ := takes_literalBody? plain quote rest
  rw [Takes, quote_literal_append, simpleKey?, read]
  exact ⟨_, rfl, congrArg String.ofList value, left⟩

/-- A key is read as the key, whatever characters it is made of. -/
theorem takes_simpleKey? {rest : List Char} (ends : EndsKey rest) (key : String) :
    Takes simpleKey? (keyText key ++ rest) key rest := by
  conv => arg 3; rw [← String.ofList_toList (s := key)]
  rw [keyText]
  split_ifs with bare
  · simp only [Bool.and_eq_true, Bool.not_eq_true', List.isEmpty_eq_false_iff,
      List.all_eq_true, isBare_eq] at bare
    exact takes_simpleKey?_bare ends bare.1 bare.2
  · rw [Quotation.ofKey]
    split_ifs with control quotes quote
    · exact takes_simpleKey?_basic key.toList rest
    · exact takes_simpleKey?_basic key.toList rest
    · rw [List.any_eq_true, not_exists] at control
      refine takes_simpleKey?_literal (fun char member => ?_) (by simpa using quote) rest
      exact isPlain_of_isControl (Bool.eq_false_iff.mpr fun yes => control char ⟨member, yes⟩)
    · exact takes_simpleKey?_basic key.toList rest

end Lamplight.Toml
