import Lamplight.Json.Number

/-!
# From JSON syntax to values

`Source.value?` interprets a document that was taken apart: the texts get their characters,
the numbers their values, and the members of an object their order.
-/

namespace Lamplight.Json

/-- The value of a hexadecimal digit. -/
def hexValue (char : Char) : Nat :=
  if char.isDigit then char.toNat - '0'.toNat
  else if 'a' ≤ char then char.toNat - 'a'.toNat + 10
  else char.toNat - 'A'.toNat + 10

/-- The value of some hexadecimal digits. -/
def hexDigitsValue (digits : List Char) : Nat :=
  digits.foldl (fun value digit => 16 * value + hexValue digit) 0

/-- What a character after a backslash stands for. -/
def escaped : Char → Char
  | 'b' => '\x08'
  | 'f' => '\x0c'
  | 'n' => '\n'
  | 'r' => '\r'
  | 't' => '\t'
  | char => char

/-- The characters that the inside of a text stands for.  The two halves of a surrogate pair
make one character, and neither may stand alone. -/
def unescape : List Char → Except Fault (List Char)
  | [] => .ok []
  | '\\' :: 'u' :: a :: b :: c :: d :: rest =>
    let unit := hexDigitsValue [a, b, c, d]
    if 0xDC00 ≤ unit && unit ≤ 0xDFFF then .error .loneSurrogate
    else if 0xD800 ≤ unit && unit ≤ 0xDBFF then
      match rest with
      | '\\' :: 'u' :: e :: f :: g :: h :: rest =>
        let second := hexDigitsValue [e, f, g, h]
        if 0xDC00 ≤ second && second ≤ 0xDFFF then
          (unescape rest).map
            (Char.ofNat ((unit - 0xD800) * 0x400 + (second - 0xDC00) + 0x10000) :: ·)
        else .error .loneSurrogate
      | _ => .error .loneSurrogate
    else (unescape rest).map (Char.ofNat unit :: ·)
  | '\\' :: char :: rest => (unescape rest).map (escaped char :: ·)
  | char :: rest => (unescape rest).map (char :: ·)

/-- The text of a spelling. -/
def textOf (spelling : List Char) : Except Fault String :=
  (unescape spelling).map String.ofList

namespace Source

mutual

/-- The value of a document in which containers enclose one another at most `depth`
times. -/
def valueWithin (depth : Nat) : Source → Except Fault Json
  | .null => .ok .null
  | .bool value => .ok (.bool value)
  | .number spelling =>
    match numberOf? spelling with
    | some value => .ok value
    | none => .error (.outOfRange (String.ofList spelling))
  | .text spelling => (textOf spelling).map .text
  | .array items =>
    match depth with
    | 0 => .error .tooDeep
    | depth + 1 => (itemsWithin depth items).map .array
  | .object members =>
    match depth with
    | 0 => .error .tooDeep
    | depth + 1 => (membersWithin depth members).map ofMembers

/-- The values of some items. -/
def itemsWithin (depth : Nat) : List Source → Except Fault (List Json)
  | [] => .ok []
  | item :: rest => do
    let value ← valueWithin depth item
    return value :: (← itemsWithin depth rest)

/-- The members of some spelled members. -/
def membersWithin (depth : Nat) :
    List (List Char × Source) → Except Fault (List (String × Json))
  | [] => .ok []
  | (spelling, source) :: rest => do
    let name ← textOf spelling
    let value ← valueWithin depth source
    return (name, value) :: (← membersWithin depth rest)

end

end Source

end Lamplight.Json
