import Lamplight.Files.Basic
import Lamplight.Ordered

/-!
# Failures

What a caller is told when rules could not be had.  A failure has a code for programs, a
message for people, and a context: fields in the order of their names, and the place at
which it was noticed.
-/

namespace Lamplight

/-- The kinds of failures. -/
inductive Failure.Code
  /-- Something is wrong with a source of rules. -/
  | source
  /-- A source of rules cannot be reached. -/
  | unavailable
  /-- What a source of rules holds is not a list of rules. -/
  | invalidRecord
  /-- Anything else. -/
  | internal
  deriving Repr, DecidableEq

namespace Failure.Code

/-- The number of a code. -/
def number : Code → Nat
  | .source => 3000
  | .unavailable => 3001
  | .invalidRecord => 3002
  | .internal => 9000

/-- A code in words. -/
def description : Code → String
  | .source => "Rule source error"
  | .unavailable => "Rule source unavailable"
  | .invalidRecord => "Invalid rule record"
  | .internal => "Internal error"

/-- Whether a code is about a source of rules; those have the numbers from 3000 on. -/
def isRuleSource (code : Code) : Bool :=
  3000 ≤ code.number && code.number < 4000

end Failure.Code

/-- Under which circumstances a failure came about. -/
structure Failure.Context where
  /-- Named circumstances. -/
  fields : Ordered String
  /-- The place at which the failure was noticed. -/
  location : Option String
  deriving Repr, DecidableEq

/-- A failure that callers are told about. -/
structure Failure where
  code : Failure.Code
  message : String
  context : Option Failure.Context
  deriving Repr, DecidableEq

namespace Failure

/-- A failure without context. -/
def ofMessage (code : Code) (message : String) : Failure := ⟨code, message, none⟩

/-- The same failure under another code. -/
def withCode (failure : Failure) (code : Code) : Failure := { failure with code }

/-- The context of a failure; one without any has an empty one. -/
def contextOrEmpty (failure : Failure) : Context := failure.context.getD ⟨.empty, none⟩

/-- The failure with one more circumstance. -/
def withField (failure : Failure) (name value : String) : Failure :=
  let context := failure.contextOrEmpty
  { failure with context := some { context with fields := context.fields.insert name value } }

/-- The failure with the place at which it was noticed. -/
def withLocation (failure : Failure) (location : String) : Failure :=
  { failure with context := some { failure.contextOrEmpty with location := some location } }

/-- Whether a source of rules failed. -/
def isRuleSource (failure : Failure) : Bool := failure.code.isRuleSource

/-- The value of a circumstance. -/
def field? (failure : Failure) (name : String) : Option String :=
  failure.contextOrEmpty.fields.get? name

/-- A failure with its circumstances but without its place. -/
def summary (failure : Failure) : String :=
  s!"[{failure.code.number}] {failure.message}" ++
    String.join (failure.contextOrEmpty.fields.map fun field => s!" ({field.1}: {field.2})")

/-- A failure in one line. -/
def display (failure : Failure) : String :=
  failure.summary ++
    match failure.contextOrEmpty.location with
    | some location => s!" at {location}"
    | none => ""

/-- The failure of an access to something outside.  What is missing, refused or late is
unavailable. -/
def ofAccessError (error : AccessError) : Failure :=
  let code : Code :=
    match error.kind with
    | .notFound | .permissionDenied | .connectionRefused | .connectionReset | .timedOut =>
      .unavailable
    | .other => .internal
  ofMessage code error.message

end Failure

end Lamplight
