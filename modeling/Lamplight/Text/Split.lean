/-!
# Splits of a text

A split cuts a text into a front and a rest.  That the two together are the text is part
of the type, so no scanner made of splits can lose or invent a character.
-/

namespace Lamplight.Text

/-- A text cut in two. -/
structure Split (text : List Char) where
  front : List Char
  rest : List Char
  whole : front ++ rest = text

namespace Split

/-- Nothing in front. -/
def none (text : List Char) : Split text := ⟨[], text, rfl⟩

/-- The longest front of characters with a property. -/
def span (property : Char → Bool) (text : List Char) : Split text :=
  ⟨text.takeWhile property, text.dropWhile property, List.takeWhile_append_dropWhile⟩

/-- The first split followed by a split of its rest. -/
def append {text : List Char} (first : Split text) (second : Split first.rest) : Split text :=
  ⟨first.front ++ second.front, second.rest, by
    rw [List.append_assoc, second.whole, first.whole]⟩

/-- A split of a text with one more character in front. -/
def push {text : List Char} (char : Char) (split : Split text) : Split (char :: text) :=
  ⟨char :: split.front, split.rest, by simp [split.whole]⟩

/-- A sign in front, if there is one. -/
def sign : (text : List Char) → Split text
  | '-' :: rest => (none rest).push '-'
  | '+' :: rest => (none rest).push '+'
  | text => none text

/-- The digits in front. -/
def digits (text : List Char) : Split text := .span Char.isDigit text

/-- A point with digits after it in front, if they are there. -/
def fraction : (text : List Char) → Split text
  | '.' :: rest =>
    let digits := Split.digits rest
    if digits.front.isEmpty then none ('.' :: rest) else digits.push '.'
  | text => none text

/-- An `e` with a sign or not and with digits after it in front, if they are there. -/
def exponent : (text : List Char) → Split text
  | [] => none []
  | mark :: rest =>
    if mark == 'e' || mark == 'E' then
      let sign := Split.sign rest
      let digits := Split.digits sign.rest
      if digits.front.isEmpty then none (mark :: rest) else (sign.append digits).push mark
    else none (mark :: rest)

theorem length_rest_le {text : List Char} (split : Split text) :
    split.rest.length ≤ text.length := by
  conv => rhs; rw [← split.whole]
  simp

theorem length_rest_lt {text : List Char} (split : Split text)
    (nonempty : split.front ≠ []) : split.rest.length < text.length := by
  have positive := List.length_pos_iff.2 nonempty
  conv => rhs; rw [← split.whole]
  simp only [List.length_append]
  omega

end Split

/-- The number of bytes of a text in UTF-8. -/
def utf8Length : List Char → Nat
  | [] => 0
  | char :: rest => char.utf8Size + utf8Length rest

@[simp] theorem utf8Length_nil : utf8Length [] = 0 := rfl

@[simp] theorem utf8Length_cons (char : Char) (rest : List Char) :
    utf8Length (char :: rest) = char.utf8Size + utf8Length rest := rfl

@[simp] theorem utf8Length_append (left right : List Char) :
    utf8Length (left ++ right) = utf8Length left + utf8Length right := by
  induction left with
  | nil => simp
  | cons char rest ih => simp [ih, Nat.add_assoc]

end Lamplight.Text
