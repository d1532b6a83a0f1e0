import Lamplight.Catalog
import Lamplight.Clamp
import Lamplight.Decimal.Layout

/-!
# Degrees of membership

The degrees to which one reading belongs to the categories of its channel, in the order
in which the categories are configured.
-/

namespace Lamplight

/-- A degree for every category of a channel. -/
abbrev Degrees := Catalog Float

namespace Degrees

/-- Note the degree for a category, kept between zero and one. -/
def record (degrees : Degrees) (category : String) (degree : Float) : Degrees :=
  degrees.insert category (clamp 0 1 degree)

/-- The stronger of the strongest category so far and the next one.  A degree that is
not positive is passed over, and of two equal ones the earlier stays. -/
def stronger (best : Option (String × Float)) (entry : String × Float) :
    Option (String × Float) :=
  if entry.2 ≤ 0 then best
  else
    match best with
    | none => some entry
    | some current => if entry.2 ≤ current.2 then best else some entry

/-- The category with the highest positive degree; the first of several. -/
def dominant (degrees : Degrees) : Option (String × Float) :=
  degrees.entries.foldl stronger none

/-- The name of the dominant category, or `none` in words. -/
def dominantName (degrees : Degrees) : String :=
  match degrees.dominant with
  | some entry => entry.1
  | none => "none"

/-- The degrees with two decimal places, between braces. -/
def text (degrees : Degrees) : String :=
  let entries := degrees.entries.map fun entry => entry.1 ++ ": " ++ Decimal.fixed 2 entry.2
  "\x7b" ++ ", ".intercalate entries ++ "\x7d"

end Degrees

end Lamplight
