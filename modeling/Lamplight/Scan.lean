/-!
# Scanners

A scanner reads something from the start of its input and says what is left.  What is
left is strictly shorter, by the type of the result, so a scanner can be repeated without
a bound.  The input is a list of any symbols: characters, or tokens.
-/

namespace Lamplight

/-- What a scanner read from an input, and what is left of it. -/
structure Found (σ α : Type) (input : List σ) where
  value : α
  rest : List σ
  shorter : rest.length < input.length

/-- A function that reads from the start of its input or fails. -/
abbrev Scanner (σ ε α : Type) := (input : List σ) → Except ε (Found σ α input)

namespace Found

variable {σ α β : Type} {input : List σ}

/-- The reading with a value and a rest, provided that the rest is shorter. -/
def ofRest? (value : α) (rest : List σ) : Option (Found σ α input) :=
  if shorter : rest.length < input.length then some ⟨value, rest, shorter⟩ else none

/-- The reading that takes the first symbol of an input and nothing more. -/
def head {symbol : σ} (value : α) : Found σ α (symbol :: input) :=
  ⟨value, input, Nat.lt_succ_self _⟩

/-- The same reading with another value. -/
def map (image : α → β) (found : Found σ α input) : Found σ β input :=
  ⟨image found.value, found.rest, found.shorter⟩

/-- A reading of the rest of an input is a reading of the input. -/
def after (found : Found σ α input) (next : Found σ β found.rest) : Found σ β input :=
  ⟨next.value, next.rest, Nat.lt_trans next.shorter found.shorter⟩

/-- A reading of an input without its first symbol is a reading of the input. -/
def behind {symbol : σ} (found : Found σ α input) : Found σ α (symbol :: input) :=
  ⟨found.value, found.rest, Nat.lt_succ_of_lt found.shorter⟩

/-- A reading that goes on to some later end of the input. -/
def upTo (found : Found σ α input) (rest : List σ)
    (within : rest.length ≤ found.rest.length) : Found σ α input :=
  ⟨found.value, rest, Nat.lt_of_le_of_lt within found.shorter⟩

end Found

variable {σ ε α : Type}

/-- One or more items with a separator between each two of them. -/
def chain (isSeparator : σ → Bool) (item : Scanner σ ε α) : Scanner σ ε (List α) :=
  fun input =>
    match item input with
    | .error error => .error error
    | .ok first =>
      match after : first.rest with
      | [] => .ok ⟨[first.value], [], by have := first.shorter; simp_all⟩
      | symbol :: rest =>
        if isSeparator symbol then
          have : rest.length < input.length := by
            have := first.shorter
            simp only [after, List.length_cons] at this
            omega
          match chain isSeparator item rest with
          | .error error => .error error
          | .ok more =>
            .ok ⟨first.value :: more.value, more.rest, Nat.lt_trans more.shorter this⟩
        else .ok ⟨[first.value], symbol :: rest, after ▸ first.shorter⟩
termination_by input => input.length

end Lamplight
