/-!
# Numbers kept within bounds

No number (NaN) compares with nothing, so `clamp` lets it through and `atLeast`
replaces it by the bound.
-/

namespace Lamplight

/-- A number kept between two bounds; no number stays no number. -/
def clamp (low high number : Float) : Float :=
  if number < low then low else if high < number then high else number

/-- A number that is at least the bound; the bound stands in for no number. -/
def atLeast (bound number : Float) : Float :=
  if bound ≤ number then number else bound

end Lamplight
