import Lamplight.Clamp
import Lamplight.Decimal.Layout

/-!
# Triangular categories

A triangle gives the degree to which a number belongs to a category: zero up to its left
foot, rising to one at its peak, and falling back to zero at its right foot.
-/

namespace Lamplight

/-- The control points of a triangular category. -/
structure Triangle where
  left : Float
  peak : Float
  right : Float
  deriving Repr, BEq, DecidableEq

namespace Triangle

/-- The degree to which a number belongs to the category.  A side of no width
contributes nothing, and neither does no number. -/
def degree (triangle : Triangle) (number : Float) : Float :=
  if number.isNaN || number ≤ triangle.left || triangle.right ≤ number then 0
  else
    clamp 0 1 <|
      if number ≤ triangle.peak then
        let rise := triangle.peak - triangle.left
        if 0 < rise then (number - triangle.left) / rise else 0
      else
        let fall := triangle.right - triangle.peak
        if 0 < fall then (triangle.right - number) / fall else 0

/-- The interval outside of which every degree is zero. -/
def support (triangle : Triangle) : Float × Float :=
  (triangle.left, triangle.right)

/-- The control points between parentheses. -/
def text (triangle : Triangle) : String :=
  let points := [triangle.left, triangle.peak, triangle.right].map Decimal.plain.text
  "(" ++ ", ".intercalate points ++ ")"

/-- What makes control points unusable. -/
inductive Fault
  /-- A point is infinite or no number. -/
  | notFinite
  /-- The points are not in ascending order. -/
  | unordered
  deriving Repr, DecidableEq

/-- What is wrong with a triangle, in words. -/
def Fault.message (triangle : Triangle) : Fault → String
  | .notFinite => s!"category range {triangle.text} has non-finite control points"
  | .unordered => s!"category range {triangle.text} must satisfy a <= b <= c"

/-- What is wrong with the control points, if anything. -/
def fault? (triangle : Triangle) : Option Fault :=
  if !(triangle.left.isFinite && triangle.peak.isFinite && triangle.right.isFinite) then
    some .notFinite
  else if triangle.peak < triangle.left || triangle.right < triangle.peak then
    some .unordered
  else none

end Triangle

end Lamplight
