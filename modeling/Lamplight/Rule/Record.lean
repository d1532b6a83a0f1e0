import Lamplight.Rule.Basic

/-!
# Records of rules

A record is a rule as a document holds it: fields with names, or values in a fixed order.
What the values are depends on the format of the document; a `FieldReader` says how to read
them.
-/

namespace Lamplight.Rule

/-- What is wrong with a record. -/
inductive RecordFault
  | missing (field : String)
  | repeated (field : String)
  | unreadable (field : String)
  /-- More values than there are fields. -/
  | excess
  /-- A value that is no record. -/
  | notRecord
  deriving Repr, DecidableEq

/-- What is wrong with a record, in words. -/
def RecordFault.message : RecordFault → String
  | .missing field => s!"missing field {field}"
  | .repeated field => s!"duplicate field {field}"
  | .unreadable field => s!"invalid value for field {field}"
  | .excess => "too many fields"
  | .notRecord => "expected a rule record"

/-- The fields of a record. -/
inductive Field
  | name
  | description
  | condition
  | priority
  | action
  | intensity
  deriving Repr, DecidableEq

namespace Field

/-- The name of a field in a document. -/
def key : Field → String
  | .name => "name"
  | .description => "description"
  | .condition => "condition"
  | .priority => "priority"
  | .action => "action_name"
  | .intensity => "intensity"

/-- The fields in the order in which a record without names lists them. -/
def listed : List Field := [.name, .description, .condition, .priority, .action, .intensity]

/-- The field of a name.  The name of a rule may also be called `rule_name`. -/
def ofKey? (key : String) : Option Field :=
  if key = "rule_name" then some .name else listed.find? (·.key == key)

end Field

/-- How the values of one format are read as fields of a record. -/
structure FieldReader (ν : Type) where
  text? : ν → Option String
  /-- A whole number of 64 bits. -/
  integer? : ν → Option Int
  /-- Any value, or a value that stands for none. -/
  optional? : ν → Option (Option Json)

/-- A record of which some fields are known. -/
structure Draft where
  name : Option String
  description : Option String
  condition : Option String
  priority : Option Int
  action : Option String
  intensity : Option (Option Json)

namespace Draft

/-- The record of which no field is known. -/
def blank : Draft := ⟨none, none, none, none, none, none⟩

/-- Read a value for a field that must not be known yet. -/
def once {ν α : Type} (field : Field) (known : Option α) (read? : ν → Option α) (value : ν) :
    Except RecordFault (Option α) :=
  if known.isSome then .error (.repeated field.key)
  else
    match read? value with
    | none => .error (.unreadable field.key)
    | some image => .ok (some image)

variable {ν : Type}

/-- Take note of a field. -/
def note (reader : FieldReader ν) (draft : Draft) (field : Field) (value : ν) :
    Except RecordFault Draft :=
  match field with
  | .name => do return { draft with name := ← once field draft.name reader.text? value }
  | .description => do
    return { draft with description := ← once field draft.description reader.text? value }
  | .condition => do
    return { draft with condition := ← once field draft.condition reader.text? value }
  | .priority => do
    return { draft with priority := ← once field draft.priority reader.integer? value }
  | .action => do return { draft with action := ← once field draft.action reader.text? value }
  | .intensity => do
    return { draft with intensity := ← once field draft.intensity reader.optional? value }

/-- A field without which there is no rule. -/
def required {α : Type} (field : Field) (known : Option α) : Except RecordFault α :=
  match known with
  | none => .error (.missing field.key)
  | some value => .ok value

/-- The rule of a complete record.  It may lack a description and an intensity. -/
def finish (draft : Draft) : Except RecordFault Rule := do
  return {
    name := ← required .name draft.name
    description := draft.description.getD ""
    condition := ← required .condition draft.condition
    priority := ← required .priority draft.priority
    action := ← required .action draft.action
    intensity := draft.intensity.join
  }

end Draft

variable {ν : Type}

/-- The rule of a record with named fields; names that mean nothing are passed over. -/
def ofFields (reader : FieldReader ν) (fields : List (String × ν)) : Except RecordFault Rule := do
  let draft ← fields.foldlM (fun draft (key, value) =>
    match Field.ofKey? key with
    | none => .ok draft
    | some field => draft.note reader field value) Draft.blank
  draft.finish

/-- The rule of a record without names; values beyond the last field are passed over. -/
def ofItems (reader : FieldReader ν) (items : List ν) : Except RecordFault Rule := do
  let draft ← (Field.listed.zip items).foldlM (fun draft (field, value) =>
    draft.note reader field value) Draft.blank
  draft.finish

end Lamplight.Rule
