import Lamplight.Text.Split

/-!
# Splits of texts that are known in parts

Where a text is written as a front and a rest, and the rest does not go on with what the front is
made of, the splits that a scanner takes are the ones it was written with.
-/

namespace Lamplight.Text

/-- Whether a text does not go on with a character of some property. -/
abbrev Stops (property : Char → Bool) (text : List Char) : Prop :=
  text.head?.any property = false

/-- A text that stops at a property stops at every narrower one. -/
theorem Stops.mono {wide narrow : Char → Bool} {text : List Char} (stops : Stops wide text)
    (narrower : ∀ char, narrow char = true → wide char = true) : Stops narrow text := by
  cases text with
  | nil => rfl
  | cons char rest =>
    have other : wide char = false := stops
    show narrow char = false
    rw [← Bool.not_eq_true]
    intro holds
    rw [narrower char holds] at other
    cases other

namespace Stops

variable {property : Char → Bool} {front rest : List Char}

theorem append (inFront : Stops property front) (inRest : Stops property rest) :
    Stops property (front ++ rest) := by
  cases front with
  | nil => exact inRest
  | cons first more => exact inFront

/-- What does not go on with a property in a longer text does not in a shorter one. -/
theorem of_append (stops : Stops property (front ++ rest)) : Stops property front := by
  cases front with
  | nil => rfl
  | cons first more => exact stops

end Stops

/-- The longest front of characters with a property, and what is left behind it. -/
theorem takeWhile_dropWhile_append {property : Char → Bool} {front rest : List Char}
    (every : ∀ char ∈ front, property char = true) (stops : Stops property rest) :
    (front ++ rest).takeWhile property = front ∧ (front ++ rest).dropWhile property = rest := by
  have stopped : rest.takeWhile property = [] ∧ rest.dropWhile property = rest := by
    cases rest with
    | nil => exact ⟨rfl, rfl⟩
    | cons first more =>
      have other : property first = false := stops
      rw [List.takeWhile_cons, List.dropWhile_cons, other]
      exact ⟨rfl, rfl⟩
  rw [List.takeWhile_append_of_pos every, List.dropWhile_append_of_pos every, stopped.1, stopped.2,
    List.append_nil]
  exact ⟨rfl, rfl⟩

/-- A point with digits after it, if there are any. -/
def pointed (digits : List Char) : List Char :=
  if digits = [] then [] else '.' :: digits

namespace Split

variable {text : List Char}

/-- The front of a split determines it. -/
theorem eq_of_front {left right : Split text} (same : left.front = right.front) : left = right := by
  obtain ⟨front, rest, whole⟩ := left
  obtain ⟨otherFront, otherRest, otherWhole⟩ := right
  subst same
  have rests : rest = otherRest := List.append_cancel_left (whole.trans otherWhole.symm)
  subst rests
  rfl

/-- A span takes characters with its property, and leaves none of them in front of the rest. -/
theorem forall_mem_span (text : List Char) (property : Char → Bool) :
    ∀ char ∈ (span property text).front, property char = true := by
  intro char member
  exact List.all_eq_true.mp (List.all_takeWhile (l := text)) char member

theorem stops_span (text : List Char) (property : Char → Bool) :
    Stops property (span property text).rest := by
  show (text.dropWhile property).head?.any property = false
  cases behind : text.dropWhile property with
  | nil => rfl
  | cons first rest =>
    have other := List.head?_dropWhile_not property text
    rw [behind] at other
    exact other

theorem span_eq {property : Char → Bool} {front rest : List Char}
    (every : ∀ char ∈ front, property char = true) (stops : Stops property rest) :
    span property (front ++ rest) = ⟨front, rest, rfl⟩ :=
  eq_of_front (takeWhile_dropWhile_append every stops).1

theorem fraction_of_stops {rest : List Char} (stops : Stops (· == '.') rest) :
    fraction rest = none rest := by
  cases rest with
  | nil => rfl
  | cons first more =>
    have other : (first == '.') = false := stops
    rw [fraction]
    rintro _ ⟨⟩
    cases other

/-- A point and the digits after it, or nothing at all. -/
theorem fraction_eq {digits rest : List Char} (every : ∀ char ∈ digits, char.isDigit = true)
    (noDigit : Stops Char.isDigit rest) (noPoint : Stops (· == '.') rest) :
    fraction (pointed digits ++ rest) = ⟨pointed digits, rest, rfl⟩ := by
  apply eq_of_front
  cases digits with
  | nil => exact congrArg Split.front (fraction_of_stops noPoint)
  | cons first more =>
    have span : Split.digits (first :: more ++ rest) = ⟨first :: more, rest, rfl⟩ :=
      span_eq every noDigit
    show (fraction ('.' :: (first :: more ++ rest))).front = '.' :: first :: more
    rw [fraction, span]
    rfl

/-- Nothing that looks like a power of ten. -/
theorem exponent_eq {rest : List Char}
    (stops : Stops (fun char => char == 'e' || char == 'E') rest) : exponent rest = none rest := by
  cases rest with
  | nil => rfl
  | cons first more =>
    have other : (first == 'e' || first == 'E') = false := stops
    rw [exponent, other]
    rfl

end Split

end Lamplight.Text
