/-!
# TOML values

The values of TOML documents.  A table keeps its entries in the order in which they stand;
a moment is a date, a time of day, or both.
-/

namespace Lamplight.Toml

/-- A day of the calendar. -/
structure Date where
  year : Nat
  month : Nat
  day : Nat
  deriving Repr, DecidableEq

/-- A time of day; fractions of a second count in billionths. -/
structure Clock where
  hour : Nat
  minute : Nat
  second : Nat
  nanosecond : Nat
  deriving Repr, DecidableEq

/-- The distance from universal time. -/
inductive Offset
  | zulu
  | minutes (value : Int)
  deriving Repr, DecidableEq

/-- A date, a time of day, or both, the latter with an offset or not. -/
structure Moment where
  date : Option Date
  clock : Option Clock
  offset : Option Offset
  deriving Repr, DecidableEq

/-- A number with zeros in front, up to a width. -/
def padded (width number : Nat) : String :=
  let digits := toString number
  String.ofList (List.replicate (width - digits.length) '0') ++ digits

/-- A date as year, month and day. -/
def Date.text (date : Date) : String :=
  s!"{padded 4 date.year}-{padded 2 date.month}-{padded 2 date.day}"

/-- A time of day; fractions of a second without zeros at their end. -/
def Clock.text (clock : Clock) : String :=
  let fraction := (padded 9 clock.nanosecond).toList.reverse.dropWhile (· == '0')
  s!"{padded 2 clock.hour}:{padded 2 clock.minute}:{padded 2 clock.second}" ++
    (if clock.nanosecond = 0 then "" else "." ++ String.ofList fraction.reverse)

/-- An offset: `Z`, or hours and minutes with a sign. -/
def Offset.text : Offset → String
  | .zulu => "Z"
  | .minutes value =>
    (if value < 0 then "-" else "+") ++
      s!"{padded 2 (value.natAbs / 60)}:{padded 2 (value.natAbs % 60)}"

/-- A moment, with a `T` between a date and a time. -/
def Moment.text (moment : Moment) : String :=
  (moment.date.map Date.text).getD "" ++
    (if moment.date.isSome && moment.clock.isSome then "T" else "") ++
    (moment.clock.map Clock.text).getD "" ++ (moment.offset.map Offset.text).getD ""

/-- A value of a document. -/
inductive Value
  | text (value : String)
  | integer (value : Int)
  | number (value : Float)
  | bool (value : Bool)
  | moment (value : Moment)
  | array (items : List Value)
  | table (entries : List (String × Value))
  deriving Repr, Inhabited

/-- What is wrong with a document. -/
inductive Fault
  /-- Text that is no TOML; so many characters are left. -/
  | unexpected (left : Nat)
  /-- A key that was given a value or a header before. -/
  | repeated (key : String)
  /-- A key used for a table whose value is none. -/
  | notTable (key : String)
  /-- Values, or the parts of a key, too many levels deep. -/
  | tooDeep
  deriving Repr, DecidableEq

/-- What is wrong with a document, in words. -/
def Fault.message : Fault → String
  | .unexpected left => s!"unexpected text {left} characters before the end"
  | .repeated key => s!"duplicate key {key}"
  | .notTable key => s!"{key} is not a table"
  | .tooDeep => "recursion limit exceeded"

end Lamplight.Toml
