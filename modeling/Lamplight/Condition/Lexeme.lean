import Lamplight.Condition.Error
import Lamplight.Decimal.Numeral
import Lamplight.Text.Alphanumeric
import Lamplight.Text.Blank
import Lamplight.Text.Split

/-!
# From source to tokens

`Lexeme.cut?` takes the first token off a text, and `tokenize` takes all of them, with
the blanks between them left out.  A lexeme keeps the characters it was cut from.
-/

namespace Lamplight

open Text

/-- A token cut from the start of a text. -/
structure Lexeme (text : List Char) where
  token : Token
  split : Split text
  nonempty : split.front ≠ []

namespace Lexeme

/-- The inside of a quoted text: what stands before the quote that ends it. -/
structure Body (quote : Char) (text : List Char) where
  inside : List Char
  rest : List Char
  whole : inside ++ quote :: rest = text

/-- The inside of a quoted text.  A backslash keeps the next character from ending it, and
no line break may stand in it. -/
def body? (quote : Char) : (text : List Char) → Option (Body quote text)
  | [] => none
  | char :: rest =>
    if ends : char = quote then some ⟨[], rest, by simp [ends]⟩
    else if char = '\\' then
      match rest with
      | [] => none
      | escaped :: rest =>
        if escaped = '\n' then none
        else
          (body? quote rest).map fun body =>
            ⟨char :: escaped :: body.inside, body.rest, by simp [body.whole]⟩
    else if char = '\n' then none
    else
      (body? quote rest).map fun body =>
        ⟨char :: body.inside, body.rest, by simp [body.whole]⟩

/-- What the inside of a quoted text stands for.  A backslash before a character that has
no meaning after one stays. -/
def unescape : List Char → List Char
  | '\\' :: 'n' :: rest => '\n' :: unescape rest
  | '\\' :: 't' :: rest => '\t' :: unescape rest
  | '\\' :: '\\' :: rest => '\\' :: unescape rest
  | '\\' :: '"' :: rest => '"' :: unescape rest
  | '\\' :: '\'' :: rest => '\'' :: unescape rest
  | '\\' :: other :: rest => '\\' :: other :: unescape rest
  | char :: rest => char :: unescape rest
  | [] => []

/-- A quoted text; either quote may be used. -/
def text? : (text : List Char) → Option (Lexeme text)
  | [] => none
  | quote :: rest =>
    if quote = '"' ∨ quote = '\'' then
      (body? quote rest).map fun body =>
        ⟨.text (String.ofList (unescape body.inside)),
          ⟨quote :: (body.inside ++ [quote]), body.rest, by simp [body.whole]⟩, by simp⟩
    else none

/-- Whether a number must not be followed by this character. -/
def continuesNumber (char : Char) : Bool :=
  isAlphanumeric char || char == '_' || char == '.'

/-- A number: a sign or none, digits before or after a point, a power of ten or none. -/
def number? (text : List Char) : Option (Lexeme text) :=
  let sign := Split.sign text
  let whole := Split.digits sign.rest
  let fraction := Split.fraction whole.rest
  if whole.front.isEmpty && fraction.front.isEmpty then none
  else
    let split := sign.append (whole.append (fraction.append (Split.exponent fraction.rest)))
    if split.rest.head?.any continuesNumber then none
    else
      match Decimal.Numeral.read? split.front with
      | none => none
      | some numeral =>
        if nonempty : split.front = [] then none
        else some ⟨.number numeral.value, split, nonempty⟩

/-- A single character as a token. -/
def single (token : Token) (char : Char) (rest : List Char) : Lexeme (char :: rest) :=
  ⟨token, (Split.none rest).push char, by simp [Split.push]⟩

/-- Two characters as a token. -/
def double (token : Token) (first second : Char) (rest : List Char) :
    Lexeme (first :: second :: rest) :=
  ⟨token, ((Split.none rest).push second).push first, by simp [Split.push]⟩

/-- A comparator or a parenthesis; of two comparators the longer one. -/
def sign? : (text : List Char) → Option (Lexeme text)
  | '=' :: '=' :: rest => some (double (.comparator .equal) '=' '=' rest)
  | '<' :: '=' :: rest => some (double (.comparator .lessEqual) '<' '=' rest)
  | '>' :: '=' :: rest => some (double (.comparator .greaterEqual) '>' '=' rest)
  | '=' :: rest => some (single (.comparator .equal) '=' rest)
  | '<' :: rest => some (single (.comparator .less) '<' rest)
  | '>' :: rest => some (single (.comparator .greater) '>' rest)
  | '(' :: rest => some (single .opening '(' rest)
  | ')' :: rest => some (single .closing ')' rest)
  | _ => none

/-- Whether a word may start with this character. -/
def startsWord (char : Char) : Bool := char.isAlpha || char == '_'

/-- Whether a word may go on with this character. -/
def continuesWord (char : Char) : Bool := char.isAlphanum || char == '_'

/-- A word of ASCII letters, digits and underscores that starts with no digit. -/
def word? : (text : List Char) → Option (Lexeme text)
  | [] => none
  | char :: rest =>
    if startsWord char then
      let split := (Split.span continuesWord rest).push char
      some ⟨.ofWord (String.ofList split.front), split, by simp [split, Split.push]⟩
    else none

/-- The first token of a text that does not start with a blank. -/
def cut? (text : List Char) : Option (Lexeme text) :=
  (text? text).or <| (number? text).or <| (sign? text).or <| word? text

end Lexeme

/-- What is wrong where no token can be cut off: the first character tells what was meant. -/
def Problem.ofText (char : Char) (rest : List Char) : Problem :=
  if char = '"' || char = '\'' then .unterminatedText
  else if char.isDigit || char = '-' || char = '+' || char = '.' then
    .malformedNumber (String.ofList ((char :: rest).takeWhile fun char => !isBlank char))
  else .unexpectedCharacter char

/-- The tokens of a text that starts at a byte offset of the source. -/
def tokensFrom (offset : Nat) (text : List Char) :
    Except ConditionError (List Token.Located) :=
  let gap := Split.span isBlank text
  match remaining : gap.rest with
  | [] => .ok []
  | char :: rest =>
    let start := offset + utf8Length gap.front
    match Lexeme.cut? (char :: rest) with
    | none => .error (.malformed start (.ofText char rest))
    | some lexeme =>
      have : lexeme.split.rest.length < text.length :=
        Nat.lt_of_lt_of_le (lexeme.split.length_rest_lt lexeme.nonempty)
          (remaining ▸ gap.length_rest_le)
      match tokensFrom (start + utf8Length lexeme.split.front) lexeme.split.rest with
      | .error error => .error error
      | .ok tokens => .ok (⟨start, lexeme.token⟩ :: tokens)
termination_by text.length

/-- The tokens of a source with the byte offsets at which they start. -/
def tokenize (source : String) : Except ConditionError (List Token.Located) :=
  tokensFrom 0 source.toList

end Lamplight
