import Lamplight.Failure
import Lamplight.Json.Reader
import Lamplight.Rule.Order
import Lamplight.Rule.Record
import Lamplight.Text.Blank
import Lamplight.Toml.Json
import Lamplight.Toml.Reader

/-!
# Documents of rules

A document holds records of rules: a JSON array of them, or TOML tables under the key `rule`.
`readRules` gives all rules of a document in the order in which they are applied, or fails as
a whole.
-/

namespace Lamplight

/-- The formats of documents. -/
inductive RuleFormat
  | toml
  | json
  deriving Repr, DecidableEq

namespace RuleFormat

/-- The name of a format in a failure. -/
def name : RuleFormat → String
  | .toml => "TOML"
  | .json => "JSON"

/-- The format of a file: JSON by the ending `json` in any case, TOML otherwise. -/
def ofPath (path : Path) : RuleFormat :=
  match path.extension? with
  | none => .toml
  | some ending => if ending.map Char.toLower = "json" then .json else .toml

end RuleFormat

namespace Rule

/-- Whether a whole number fits a signed word of 64 bits. -/
def fitsWord (number : Int) : Bool :=
  -(Decimal.signBit : Int) ≤ number && number < Decimal.signBit

/-- How many arrays and objects may enclose one another in an intensity: the array of the
document and the object of the record are two of the 127 that a document may have. -/
def intensityDepth : Nat := 125

/-- The text that a JSON value is. -/
def jsonText? : Json.Source → Option String
  | .text spelling => (Json.textOf spelling).toOption
  | _ => none

/-- The whole number of 64 bits that a JSON value is. -/
def jsonInteger? : Json.Source → Option Int
  | .number spelling =>
    match Json.numberOf? spelling with
    | some (.integer value) => if fitsWord value then some value else none
    | _ => none
  | _ => none

/-- The intensity that a JSON value stands for; `null` stands for none. -/
def jsonIntensity? : Json.Source → Option (Option Json)
  | .null => some none
  | source => (source.valueWithin intensityDepth).toOption.map some

/-- The fields of a record in JSON. -/
def jsonReader : FieldReader Json.Source := ⟨jsonText?, jsonInteger?, jsonIntensity?⟩

/-- The text that a TOML value is. -/
def tomlText? : Toml.Value → Option String
  | .text value => some value
  | _ => none

/-- The whole number that a TOML value is. -/
def tomlInteger? : Toml.Value → Option Int
  | .integer value => some value
  | _ => none

/-- The fields of a record in TOML; any value may be an intensity. -/
def tomlReader : FieldReader Toml.Value where
  text? := tomlText?
  integer? := tomlInteger?
  optional? value := some (some value.toJson)

/-- Why a document holds no list of records. -/
inductive DocumentFault
  | json (fault : Json.Fault)
  | toml (fault : Toml.Fault)
  | record (fault : RecordFault)
  /-- A value where a list of records is wanted. -/
  | notList
  deriving Repr, DecidableEq

/-- What is wrong with a document, in words. -/
def DocumentFault.message : DocumentFault → String
  | .json fault => fault.message
  | .toml fault => fault.message
  | .record fault => fault.message
  | .notList => "expected a list of rule records"

/-- The members of a JSON object with the texts that their names spell. -/
def namedMembers (members : List (List Char × Json.Source)) :
    Except Json.Fault (List (String × Json.Source)) :=
  members.mapM fun member => do
    let name ← Json.textOf member.1
    return (name, member.2)

/-- The rule of a record in JSON. -/
def ofJson : Json.Source → Except DocumentFault Rule
  | .object members => do
    let fields ← (namedMembers members).mapError DocumentFault.json
    (ofFields jsonReader fields).mapError .record
  | .array items =>
    if Field.listed.length < items.length then .error (.record .excess)
    else (ofItems jsonReader items).mapError .record
  | _ => .error (.record .notRecord)

/-- The rule of a record in TOML. -/
def ofToml : Toml.Value → Except DocumentFault Rule
  | .table entries => (ofFields tomlReader entries).mapError .record
  | .array items => (ofItems tomlReader items).mapError .record
  | _ => .error (.record .notRecord)

/-- The records of a document in the order in which they stand. -/
def records (content : String) : RuleFormat → Except DocumentFault (List Rule)
  | .json => do
    match ← (Json.Source.read content).mapError DocumentFault.json with
    | .array items => items.mapM ofJson
    | _ => throw .notList
  | .toml => do
    let entries ← (Toml.read content).mapError DocumentFault.toml
    match entries.lookup "rule" with
    | none => return []
    | some (.array items) => items.mapM ofToml
    | some _ => throw .notList

/-- What makes a record useless. -/
inductive Fault
  /-- The name is blank; records are counted from one. -/
  | unnamed (position : Nat)
  /-- The action is blank. -/
  | idle (name : String)
  deriving Repr, DecidableEq

/-- What is wrong with a rule, in words. -/
def Fault.message : Fault → String
  | .unnamed position => s!"rule #{position} has an empty name"
  | .idle name => s!"rule '{name}' has no action"

/-- The place of the check that notices a fault: a file and a line in it. -/
def Fault.location : Fault → String
  | .unnamed _ => "src/rules/mod.rs:173"
  | .idle _ => "src/rules/mod.rs:179"

/-- What makes the rule at a position useless. -/
def faultAt? (position : Nat) (rule : Rule) : Option Fault :=
  if Text.isBlankText rule.name then some (.unnamed position)
  else if Text.isBlankText rule.action then some (.idle rule.name)
  else none

/-- The first fault among rules of which the first has a position. -/
def firstFault? (position : Nat) : List Rule → Option Fault
  | [] => none
  | rule :: rest => (rule.faultAt? position).or (firstFault? (position + 1) rest)

end Rule

namespace Failure

/-- The failure to read a document. -/
def ofDocumentFault (format : RuleFormat) (fault : Rule.DocumentFault) : Failure :=
  (ofMessage .invalidRecord fault.message).withField "format" format.name

/-- The failure of a record that is useless, with the place of the check that noticed it. -/
def ofRuleFault (fault : Rule.Fault) : Failure :=
  (ofMessage .invalidRecord fault.message).withLocation fault.location

end Failure

/-- The rules of a document in the order in which they are applied. -/
def readRules (content : String) (format : RuleFormat) : Except Failure (List Rule) := do
  let rules ← (Rule.records content format).mapError (Failure.ofDocumentFault format)
  match Rule.firstFault? 1 rules with
  | some fault => throw (.ofRuleFault fault)
  | none => return Rule.byPriority rules

end Lamplight
