import Lamplight.Json.Basic
import Lamplight.Toml.Basic

/-!
# TOML values as JSON values

JSON knows neither moments nor infinity: a moment becomes an object with one member of a
reserved name, and a number that is not finite becomes `null`.
-/

namespace Lamplight.Toml

/-- The name of the only member of the object that stands for a moment. -/
def momentKey : String := "$__toml_private_datetime"

namespace Value

mutual

/-- The JSON value that stands for a value. -/
def toJson : Value → Json
  | .text value => .text value
  | .integer value => .integer value
  | .number value => if value.isFinite then .number value else .null
  | .bool value => .bool value
  | .moment value => .object [(momentKey, .text value.text)]
  | .array items => .array (toJsonItems items)
  | .table entries => .ofMembers (toJsonMembers entries)

/-- The JSON values that stand for some values. -/
def toJsonItems : List Value → List Json
  | [] => []
  | item :: rest => toJson item :: toJsonItems rest

/-- The members of the JSON object that stands for a table. -/
def toJsonMembers : List (String × Value) → List (String × Json)
  | [] => []
  | (key, value) :: rest => (key, toJson value) :: toJsonMembers rest

end

end Value

end Lamplight.Toml
