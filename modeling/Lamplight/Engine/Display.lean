import Lamplight.Engine.Basic
import Lamplight.Text.Escaped

/-!
# Engines as text

The set-up of an engine in one line, for people who look for a fault in it.
-/

namespace Lamplight

/-- Numbers in the text of a set-up: a whole number ends in `.0`, and very large and very small
ones have an exponent. -/
def setupStyle : Decimal.NumberStyle where
  tie := .away
  markWhole := true
  positional := fun power => -4 ≤ power && power ≤ 15
  notANumber := "NaN"
  infinity := "inf"

/-- Named parts between braces. -/
def partsText (name : String) (parts : List (String × String)) : String :=
  let parts := parts.map fun (key, text) => key ++ ": " ++ text
  name ++ " \x7b " ++ ", ".intercalate parts ++ " \x7d"

/-- The control points of a triangle by name. -/
def Triangle.setup (triangle : Triangle) : String :=
  partsText "CategoryRange" [
    ("a", setupStyle.text triangle.left),
    ("b", setupStyle.text triangle.peak),
    ("c", setupStyle.text triangle.right)]

/-- A channel with its categories. -/
def Variable.setup (channel : Variable) : String :=
  let terms := channel.terms.entries.map fun (name, triangle) =>
    Text.visible name ++ ": " ++ triangle.setup
  partsText "LinguisticVariable" [
    ("name", Text.visible channel.name),
    ("terms", "\x7b" ++ ", ".intercalate terms ++ "\x7d")]

/-- The categories of all channels. -/
def Categories.setup (categories : Categories) : String :=
  partsText "Fuzzifier" [
    ("light", categories.lightVariable.setup),
    ("time", categories.timeVariable.setup),
    ("weather", "[" ++ ", ".intercalate (categories.weather.map Text.visible) ++ "]")]

/-- The set-up of an engine. -/
def Engine.setup {m : Type → Type} (engine : Engine m) : String :=
  partsText "InferenceEngine" [
    ("fuzzifier", engine.categories.setup),
    ("rules", Text.visible engine.source.description)]

end Lamplight
