import Lamplight.Ordered

/-!
# JSON values

The values of JSON documents.  Whole numbers are kept apart from other numbers, and the
members of an object stand in the order of their names.
-/

namespace Lamplight

/-- A JSON value.  Members are a plain list, as an inductive type cannot stand inside `Ordered`;
`ofMembers` puts them in order. -/
inductive Json
  | null
  | bool (value : Bool)
  | integer (value : Int)
  | number (value : Float)
  | text (value : String)
  | array (items : List Json)
  | object (members : List (String × Json))
  deriving Repr, Inhabited

namespace Json

/-- The object of a list of members, in which the last of equal names counts. -/
def ofMembers (members : List (String × Json)) : Json :=
  .object (Ordered.ofList members).entries

end Json

end Lamplight
