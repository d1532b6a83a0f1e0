import Lamplight.Scan

/-!
# What scanners read

The result of a scanner carries a proof that the rest is shorter, so two results are awkward to
compare.  `Reads` forgets the proof: it relates an input to the value that is read from it and to
the rest that is left.
-/

namespace Lamplight

variable {σ ε α β : Type}

theorem bind_eq_ok_iff {first : Except ε α} {next : α → Except ε β} {result : β} :
    (first >>= next) = .ok result ↔ ∃ value, first = .ok value ∧ next value = .ok result := by
  cases first with
  | error error => simp [bind, Except.bind]
  | ok value => simp [bind, Except.bind]

theorem mapError_eq_ok_iff {ε' : Type} {first : Except ε α} {image : ε → ε'} {value : α} :
    first.mapError image = .ok value ↔ first = .ok value := by
  cases first with
  | error error => exact ⟨nofun, nofun⟩
  | ok other =>
    constructor
    · rintro ⟨⟩
      rfl
    · rintro ⟨⟩
      rfl

theorem mapM_eq_ok_nil {image : α → Except ε β} {values : List α}
    (empty : values.mapM image = .ok []) : values = [] := by
  cases values with
  | nil => rfl
  | cons value rest =>
    rw [List.mapM_cons] at empty
    obtain ⟨first, _, empty⟩ := bind_eq_ok_iff.mp empty
    obtain ⟨others, _, empty⟩ := bind_eq_ok_iff.mp empty
    cases empty

/-- The scanner reads a value from the start of an input and leaves a rest. -/
def Reads (scanner : Scanner σ ε α) (input : List σ) (value : α) (rest : List σ) : Prop :=
  ∃ found, scanner input = .ok found ∧ found.value = value ∧ found.rest = rest

namespace Reads

variable {scanner : Scanner σ ε α} {input rest : List σ} {value : α}

/-- A scanner reads at most one value from an input. -/
theorem unique {other : α} {otherRest : List σ} (left : Reads scanner input value rest)
    (right : Reads scanner input other otherRest) : value = other ∧ rest = otherRest := by
  obtain ⟨found, result, rfl, rfl⟩ := left
  obtain ⟨again, sameResult, rfl, rfl⟩ := right
  cases result.symm.trans sameResult
  exact ⟨rfl, rfl⟩

theorem length_lt (reads : Reads scanner input value rest) : rest.length < input.length := by
  obtain ⟨found, _, _, rfl⟩ := reads
  exact found.shorter

end Reads

/-- A scanner whose values are mapped reads the images of what the scanner reads. -/
theorem reads_map_iff {scanner : Scanner σ ε α} {image : α → β} {input rest : List σ} {value : β} :
    Reads (fun input => (scanner input).map (·.map image)) input value rest ↔
      ∃ original, Reads scanner input original rest ∧ value = image original := by
  constructor
  · rintro ⟨found, result, rfl, rfl⟩
    cases original : scanner input with
    | error error => simp [original, Except.map] at result
    | ok read =>
        simp only [original, Except.map, Except.ok.injEq] at result
        subst result
        exact ⟨read.value, ⟨read, original, rfl, rfl⟩, rfl⟩
  · rintro ⟨original, ⟨found, result, rfl, rfl⟩, rfl⟩
    exact ⟨found.map image, by simp [result, Except.map], rfl, rfl⟩

section Chain

variable {isSeparator : σ → Bool} {item : Scanner σ ε α} {input rest : List σ} {value : α}

/-- A chain is an item before something that is no separator, or an item, a separator and a
chain. -/
theorem Reads.chain_cases {values : List α}
    (reads : Reads (chain isSeparator item) input values rest) :
    (∃ value, Reads item input value rest ∧ values = [value] ∧
      ∀ symbol ∈ rest.head?, isSeparator symbol = false) ∨
    ∃ value symbol middle more, Reads item input value (symbol :: middle) ∧
      isSeparator symbol = true ∧ Reads (chain isSeparator item) middle more rest ∧
      values = value :: more := by
  obtain ⟨found, result, rfl, rfl⟩ := reads
  rw [chain] at result
  split at result
  · cases result
  · next first readFirst =>
    split at result
    · next after =>
      cases result
      exact .inl ⟨first.value, ⟨first, readFirst, rfl, after⟩, rfl, by simp⟩
    · next symbol middle after =>
      split at result
      · next separates =>
        split at result
        · cases result
        · next more readMore =>
          cases result
          exact .inr ⟨first.value, symbol, middle, more.value, ⟨first, readFirst, rfl, after⟩,
            separates, ⟨more, readMore, rfl, rfl⟩, rfl⟩
      · next separates =>
        cases result
        exact .inl ⟨first.value, ⟨first, readFirst, rfl, after⟩, rfl, by simpa using separates⟩

/-- An item that no separator follows is a chain. -/
theorem reads_chain_last (reads : Reads item input value rest)
    (stops : ∀ symbol ∈ rest.head?, isSeparator symbol = false) :
    Reads (chain isSeparator item) input [value] rest := by
  obtain ⟨first, readFirst, rfl, after⟩ := reads
  rw [Reads, chain]
  split
  · next failed => cases readFirst.symm.trans failed
  · next again readAgain =>
    cases readFirst.symm.trans readAgain
    split
    · next ending => exact ⟨_, rfl, rfl, ending.symm.trans after⟩
    · next symbol middle ending =>
      have noSeparator := stops symbol (by rw [← after, ending]; rfl)
      rw [if_neg (by simp [noSeparator])]
      exact ⟨_, rfl, rfl, ending.symm.trans after⟩

/-- An item, a separator and a chain are a chain. -/
theorem reads_chain_more {symbol : σ} {middle : List σ} {more : List α}
    (reads : Reads item input value (symbol :: middle)) (separates : isSeparator symbol = true)
    (others : Reads (chain isSeparator item) middle more rest) :
    Reads (chain isSeparator item) input (value :: more) rest := by
  obtain ⟨first, readFirst, rfl, after⟩ := reads
  obtain ⟨found, readMore, rfl, rfl⟩ := others
  rw [Reads, chain]
  split
  · next failed => cases readFirst.symm.trans failed
  · next again readAgain =>
    cases readFirst.symm.trans readAgain
    split
    · next ending => cases after.symm.trans ending
    · next ending =>
      cases after.symm.trans ending
      rw [if_pos separates]
      split
      · next failed => cases readMore.symm.trans failed
      · next more readMoreAgain =>
        cases readMore.symm.trans readMoreAgain
        exact ⟨_, rfl, rfl, rfl⟩

variable {error : ε}

/-- A chain fails with one of its items. -/
theorem chain_error_cases (failed : chain isSeparator item input = .error error) :
    item input = .error error ∨
    ∃ value symbol middle, Reads item input value (symbol :: middle) ∧ isSeparator symbol = true ∧
      chain isSeparator item middle = .error error := by
  rw [chain] at failed
  split at failed
  · next fault readFirst =>
    cases failed
    exact .inl readFirst
  · next first readFirst =>
    split at failed
    · cases failed
    · next symbol middle after =>
      split at failed
      · next separates =>
        split at failed
        · next fault failedMore =>
          cases failed
          exact .inr ⟨first.value, symbol, middle, ⟨first, readFirst, rfl, after⟩, separates,
            failedMore⟩
        · cases failed
      · cases failed

theorem chain_error_first (failed : item input = .error error) :
    chain isSeparator item input = .error error := by
  rw [chain, failed]

theorem chain_error_more {symbol : σ} {middle : List σ}
    (reads : Reads item input value (symbol :: middle)) (separates : isSeparator symbol = true)
    (failed : chain isSeparator item middle = .error error) :
    chain isSeparator item input = .error error := by
  obtain ⟨first, readFirst, rfl, after⟩ := reads
  rw [chain]
  split
  · next failedFirst => cases readFirst.symm.trans failedFirst
  · next again readAgain =>
    cases readFirst.symm.trans readAgain
    split
    · next ending => cases after.symm.trans ending
    · next ending =>
      cases after.symm.trans ending
      rw [if_pos separates]
      split
      · next failedMore =>
        cases failed.symm.trans failedMore
        rfl
      · next more readMore => cases failed.symm.trans readMore

end Chain

end Lamplight
