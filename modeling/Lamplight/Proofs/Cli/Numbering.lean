import Lamplight.Proofs.Cli.Launching

/-!
# How the hours of a run are numbered

The lines about the hours of a run are numbered by a signed word of 32 bits, while their number is
an unsigned one.  So the lines are those numbered from one on exactly in runs of less than
2147483648 hours; from there on a number is negative.  Main statement:
`hours_numbered_in_signed_word`.
-/

namespace Lamplight.Cli

/-- The integer that a signed word of 32 bits shows for a count. -/
def shownNumber (count : Nat) : Int := if count < 2 ^ 31 then count else count - 2 ^ 32

theorem toInt_ofNat_eq_shownNumber {count : Nat} (small : count < 2 ^ 32) :
    (Int32.ofNat count).toInt = shownNumber count := by
  have size : Int32.size = 4294967296 := rfl
  rw [Int32.toInt_ofNat', size, Int.bmod, shownNumber, Int.emod_eq_of_lt (by omega) (by omega)]
  split <;> split <;> omega

theorem shownNumber_eq_iff {count : Nat} (small : count < 2 ^ 32) :
    shownNumber count = count ↔ count < 2 ^ 31 := by
  rw [shownNumber]
  split <;> omega

/-! ## Lines under numbers -/

/-- The line about an hour under a number. -/
def hourLine (hours : UInt32) (number : Int) (report : Report) : String :=
  s!"[{number}/{hours}] {report.text}"

theorem tickLine_ofNat {count : Nat} (small : count < 2 ^ 32) (hours : UInt32) (report : Report) :
    tickLine (Int32.ofNat count) hours report = hourLine hours (shownNumber count) report := by
  rw [hourLine, ← toInt_ofNat_eq_shownNumber small]
  rfl

theorem isDigit_of_mem_repr {count : Nat} {char : Char} (member : char ∈ count.repr.toList) :
    char.isDigit = true := by
  rw [Nat.toList_repr] at member
  exact Nat.isDigit_of_mem_toDigits (by decide) (by decide) member

theorem ne_slash_of_mem_repr (number : Int) : ∀ char ∈ number.repr.toList, char ≠ '/' := by
  cases number with
  | ofNat count =>
    rintro char member rfl
    cases isDigit_of_mem_repr member
  | negSucc count =>
    intro char member
    rw [Int.repr, String.toList_append, List.mem_append] at member
    rcases member with sign | digit
    · rintro rfl
      cases sign with
      | tail _ none => cases none
    · rintro rfl
      cases isDigit_of_mem_repr digit

/-- Only one number is spelled by some digits, and none of them spells a sign. -/
theorem eq_of_repr_eq {first second : Int} (same : first.repr = second.repr) : first = second := by
  have digits : ∀ {count other : Nat}, count.repr = other.repr → count = other := by
    intro count other same
    rw [← String.toList_inj, Nat.toList_repr, Nat.toList_repr] at same
    have value := congrArg (Nat.ofDigitChars 10 · 0) same
    simpa only [Nat.ofDigitChars_ten_toDigits] using value
  have unsigned : ∀ {count other : Nat}, count.repr ≠ "-" ++ other.repr := by
    intro count other same
    have sign : '-' ∈ count.repr.toList := by simp [same]
    cases isDigit_of_mem_repr sign
  cases first with
  | ofNat count =>
    cases second with
    | ofNat other => rw [digits same]
    | negSucc other => exact absurd same unsigned
  | negSucc count =>
    cases second with
    | ofNat other => exact absurd same.symm unsigned
    | negSucc other =>
      have magnitude : ("-" ++ (count + 1).repr).toList = ("-" ++ (other + 1).repr).toList :=
        congrArg String.toList same
      rw [String.toList_append, String.toList_append, List.append_cancel_left_eq,
        String.toList_inj] at magnitude
      rw [Nat.succ.inj (digits magnitude)]

/-- A line tells its number: it is what stands in front of the slash. -/
theorem takeWhile_hourLine (hours : UInt32) (number : Int) (report : Report) :
    ((hourLine hours number report).toList.drop 1).takeWhile (· ≠ '/') = number.repr.toList := by
  have parts : (hourLine hours number report).toList =
      '[' :: (number.repr.toList ++ '/' :: s!"{hours}] {report.text}".toList) := by
    simp [hourLine, toString]
  rw [parts, List.drop_succ_cons, List.drop_zero, List.takeWhile_append_of_pos]
  · simp
  · simpa using ne_slash_of_mem_repr number

theorem hourLine_number {hours : UInt32} {first second : Int} {one other : Report}
    (same : hourLine hours first one = hourLine hours second other) : first = second := by
  have spelled := takeWhile_hourLine hours first one
  rw [same, takeWhile_hourLine, String.toList_inj] at spelled
  exact (eq_of_repr_eq spelled).symm

/-- The lines about the hours of a run, each with the number of its count from one on. -/
def numberedLines (hours : UInt32) (number : Nat → Int) (reports : List Report) : List String :=
  reports.mapIdx fun index report => hourLine hours (number (index + 1)) report

section Numbered

variable {hours : UInt32} {reports : List Report}

theorem tickLines_eq (whole : reports.length = hours.toNat) :
    tickLines hours reports = numberedLines hours shownNumber reports := by
  have bound := hours.toNat_lt
  rw [tickLines, numberedLines, List.mapIdx_eq_mapIdx_iff]
  intro index below
  exact tickLine_ofNat (by omega) hours _

/-- The lines are those with the counts themselves where every count fits into the word. -/
theorem numberedLines_eq_iff (whole : reports.length = hours.toNat) :
    numberedLines hours shownNumber reports = numberedLines hours Nat.cast reports ↔
      hours.toNat < 2 ^ 31 := by
  have bound := hours.toNat_lt
  rw [numberedLines, numberedLines, List.mapIdx_eq_mapIdx_iff]
  constructor
  · intro same
    by_contra long
    -- The count that is one too large for the word shows another number in its line.
    have first := hourLine_number (same (2 ^ 31 - 1) (by omega))
    have fits := (shownNumber_eq_iff (by decide)).mp first
    omega
  · intro short index below
    rw [(shownNumber_eq_iff (by omega)).mpr (by omega)]

end Numbered

/-! ## Runs over sources that do not fail -/

section Runs

variable {ρ : Type} (files : Files (StateM ρ)) (vars : Variables) (fresh : UInt64)
  (home : Option Path) (settings : Settings) (state : ρ)

/-- A run for all of whose hours rules are delivered prints a line for each of them. -/
theorem prints_numbered (invocation : Invocation) {hours : Option UInt32}
    {seed tickMs : Option UInt64} {rules : Option Path}
    (command : invocation.command = .simulate hours seed tickMs rules)
    (delivers : ∀ index < (effectiveSimulation settings hours seed tickMs).hours.toNat,
      (delivery files (rules.or settings.rulesPath) state index).isOk = true) :
    let hours := (effectiveSimulation settings hours seed tickMs).hours
    ∃ reports later, reports.length = hours.toNat ∧
      Prints ((runLoaded (Session.ofFiles files vars fresh home) invocation settings).run.run state)
        (headerLine hours :: numberedLines hours shownNumber reports) (.ok .success, later) := by
  intro word
  obtain ⟨reports, later, whole, prints⟩ := prints_delivered files vars fresh home settings
    (settings.verbosity.adjust invocation.verbose invocation.quiet).threshold
    (effectiveSimulation settings hours seed tickMs) rules state delivers
  refine ⟨reports, later, whole, ?_⟩
  rw [runLoaded_of_simulate _ settings command, ← tickLines_eq whole]
  exact prints

/-- Whatever the files hold at each look at them and wherever the hours of a run come from, a run
for all of whose hours rules are delivered prints a line for each of them, in order, under the
number that a signed word of 32 bits shows for its count.  These are the lines numbered from one on
exactly when the run is shorter than 2147483648 hours. -/
theorem hours_numbered_in_signed_word (invocation : Invocation) {hours : Option UInt32}
    {seed tickMs : Option UInt64} {rules : Option Path}
    (command : invocation.command = .simulate hours seed tickMs rules)
    (delivers : ∀ index < (effectiveSimulation settings hours seed tickMs).hours.toNat,
      (delivery files (rules.or settings.rulesPath) state index).isOk = true) :
    let hours := (effectiveSimulation settings hours seed tickMs).hours
    ∃ reports later, reports.length = hours.toNat ∧
      Prints ((runLoaded (Session.ofFiles files vars fresh home) invocation settings).run.run state)
        (headerLine hours :: numberedLines hours shownNumber reports) (.ok .success, later) ∧
      (numberedLines hours shownNumber reports = numberedLines hours Nat.cast reports ↔
        hours.toNat < 2 ^ 31) := by
  intro word
  obtain ⟨reports, later, whole, prints⟩ :=
    prints_numbered files vars fresh home settings state invocation command delivers
  exact ⟨reports, later, whole, prints, numberedLines_eq_iff whole⟩

end Runs

/-- The longest run of the bundled rules: its last hour is shown under a negative number. -/
theorem hours_numbered_in_signed_word_longest :
    let host := Session.ofFiles (.ofTree (StateM FileTree)) (fun _ => none) 0 none
    let invocation : Invocation :=
      ⟨none, 0, 0, .simulate (some 4294967295) (some 1) (some 0) none⟩
    (∀ index < (4294967295 : UInt32).toNat, (delivery (.ofTree (StateM FileTree)) none
      (.bare ["home"]) index).isOk = true) ∧
    ∃ lines later, Prints ((runLoaded host invocation .standard).run.run (.bare ["home"]))
        (headerLine 4294967295 :: lines) (.ok .success, later) ∧ lines.length = 4294967295 ∧
      ∃ report, lines[4294967294]? = some (hourLine 4294967295 (-1) report) := by
  intro host invocation
  have delivers : ∀ index < (4294967295 : UInt32).toNat, (delivery (.ofTree (StateM FileTree)) none
      (.bare ["home"]) index).isOk = true := fun _ _ => rfl
  obtain ⟨reports, later, whole, prints, -⟩ := hours_numbered_in_signed_word
    (.ofTree (StateM FileTree)) (fun _ => none) 0 none .standard (.bare ["home"]) invocation rfl
    delivers
  have length : reports.length = 4294967295 := whole
  refine ⟨delivers, _, _, prints, ?_, reports.get ⟨4294967294, by omega⟩, ?_⟩
  · rw [numberedLines, List.length_mapIdx, length]
  · rw [numberedLines, List.getElem?_mapIdx, List.getElem?_eq_getElem (by omega)]
    rfl

/-- A session for as many hours that the number of the last one does not fit into its word. -/
def longSession : Ending :=
  runSession (.bare ["home"]) (fun _ => none) 0
    ["simulate", "--hours", "2147483648", "--tick-ms", "0", "--seed", "1"]

theorem last_hour_numbered_negative :
    longSession.status = .success ∧ longSession.transcript.output.length = 2147483649 ∧
    (∃ report, longSession.transcript.output[2147483648]? =
      some (hourLine 2147483648 (-2147483648) report)) ∧
    ∀ report, longSession.transcript.output[2147483648]? ≠
      some (hourLine 2147483648 2147483648 report) := by
  have read : Invocation.read
      ["simulate", "--hours", "2147483648", "--tick-ms", "0", "--seed", "1"] =
        .ok ⟨none, 0, 0, .simulate (some 2147483648) (some 1) (some 0) none⟩ := by
    decide +kernel
  have nowhere : (Settings.searchPaths fun _ => none).find? (FileTree.bare ["home"]).contains =
      none := by decide +kernel
  obtain ⟨reports, later, whole, prints⟩ := prints_numbered (.ofTree (StateM FileTree))
    (fun _ => none) 0 none .standard (.bare ["home"])
    ⟨none, 0, 0, .simulate (some 2147483648) (some 1) (some 0) none⟩ rfl fun _ _ => rfl
  have length : reports.length = 2147483648 := whole
  have hours : (effectiveSimulation .standard (some 2147483648) (some 1) (some 0)).hours =
      2147483648 := rfl
  rw [← Session.host_eq, hours] at prints
  obtain ⟨output, status⟩ := runSession_of_prints read rfl (loaded_standard nowhere 0) prints
  rw [← longSession] at output status
  have number : shownNumber (2147483647 + 1) = -2147483648 := rfl
  have last : longSession.transcript.output[2147483648]? =
      some (hourLine 2147483648 (-2147483648) (reports.get ⟨2147483647, by omega⟩)) := by
    rw [output, List.getElem?_cons_succ, numberedLines, List.getElem?_mapIdx,
      List.getElem?_eq_getElem (by omega), Option.map_some, number, List.get_eq_getElem]
  refine ⟨status, ?_, ⟨_, last⟩, ?_⟩
  · rw [output, List.length_cons, numberedLines, List.length_mapIdx, length]
  · intro report same
    have equal := hourLine_number (Option.some.inj (last.symm.trans same))
    omega

end Lamplight.Cli
