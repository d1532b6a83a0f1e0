import Lamplight.Membership.Degrees
import Lamplight.Membership.Triangle
import Lamplight.Sample

/-!
# Categories of the three readings

Light and time belong to triangular categories by degrees; the weather is one of a list
of words or none of them.  `Categories.fuzzify` turns a sample into its degrees, and
`Categories.fault?` finds the first thing that makes a configuration unusable.
-/

namespace Lamplight

/-- A channel with its triangular categories. -/
structure Variable where
  name : String
  terms : Catalog Triangle

/-- The degree of a number in every category of a channel. -/
def Variable.fuzzify (channel : Variable) (number : Float) : Degrees :=
  channel.terms.entries.foldl
    (fun degrees term => degrees.record term.1 (term.2.degree number)) Catalog.empty

/-- The categories of every channel. -/
structure Categories where
  /-- The known weather categories. -/
  weather : List String
  /-- The light categories, over levels from zero to one. -/
  light : Catalog Triangle
  /-- The time categories, over the hours of the day. -/
  time : Catalog Triangle

/-- The degrees of one sample. -/
structure Snapshot where
  light : Degrees
  time : Degrees
  weather : Degrees

namespace Categories

/-- The categories in use when nothing else is configured. -/
def standard : Categories where
  weather := ["clear", "cloudy", "rainy"]
  light := Catalog.ofList
    [("dark", ⟨-0.3, 0.0, 0.3⟩), ("twilight", ⟨0.2, 0.4, 0.6⟩), ("light", ⟨0.5, 1.0, 1.5⟩)]
  time := Catalog.ofList
    [("night", ⟨-3.0, 1.0, 6.0⟩), ("morning", ⟨5.0, 8.0, 11.0⟩),
      ("day", ⟨10.0, 14.0, 18.0⟩), ("evening", ⟨17.0, 21.0, 25.0⟩)]

instance : Inhabited Categories := ⟨standard⟩

/-- The light channel. -/
def lightVariable (categories : Categories) : Variable := ⟨Reading.light.name, categories.light⟩

/-- The time channel. -/
def timeVariable (categories : Categories) : Variable := ⟨Reading.time.name, categories.time⟩

/-- One for the category that is the weather and zero for the others. -/
def fuzzifyWeather (categories : Categories) (weather : String) : Degrees :=
  categories.weather.foldl
    (fun degrees category => degrees.record category (if category = weather then 1 else 0))
    Catalog.empty

/-- The degrees of a sample in every category. -/
def fuzzify (categories : Categories) (sample : Sample) : Snapshot where
  light := categories.lightVariable.fuzzify sample.light
  time := categories.timeVariable.fuzzify sample.time
  weather := categories.fuzzifyWeather sample.weather

/-- Whether two configurations have the same categories; the order matters for the
weather only. -/
def agrees (left right : Categories) : Bool :=
  left.weather == right.weather && left.light.agrees right.light && left.time.agrees right.time

/-- What makes a configuration of categories unusable. -/
inductive Fault
  /-- A channel without categories. -/
  | missing (channel : Reading)
  /-- A category whose triangle is unusable. -/
  | triangle (channel : Reading) (category : String) (shape : Triangle) (fault : Triangle.Fault)
  /-- A weather category without a name. -/
  | unnamed
  /-- A weather category that was listed before. -/
  | repeated (category : String)

/-- What is wrong with a configuration, in words. -/
def Fault.message : Fault → String
  | .missing channel => s!"no {channel.name} categories configured"
  | .triangle channel category shape fault =>
    s!"{channel.name}.{category}: Invalid value: {fault.message shape}"
  | .unnamed => "weather category names cannot be empty"
  | .repeated category => s!"duplicate weather category '{category}'"

/-- The first fault in the categories of a numeric channel. -/
def termsFault? (channel : Reading) (terms : Catalog Triangle) : Option Fault :=
  if terms.isEmpty then some (.missing channel)
  else
    terms.entries.findSome? fun (category, shape) =>
      shape.fault?.map (.triangle channel category shape)

/-- The first fault in a list of weather categories that come after others. -/
def weatherFaultAfter? (earlier : List String) : List String → Option Fault
  | [] => none
  | category :: rest =>
    if category = "" then some .unnamed
    else if category ∈ earlier then some (.repeated category)
    else weatherFaultAfter? (earlier ++ [category]) rest

/-- The first fault in the weather categories. -/
def weatherFault? (weather : List String) : Option Fault :=
  if weather.isEmpty then some (.missing .weather) else weatherFaultAfter? [] weather

/-- The first thing that makes the categories unusable: light comes before time, and time
before the weather. -/
def fault? (categories : Categories) : Option Fault :=
  (termsFault? .light categories.light).or <|
    (termsFault? .time categories.time).or <|
      weatherFault? categories.weather

end Categories

end Lamplight
