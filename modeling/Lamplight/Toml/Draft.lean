import Lamplight.Toml.Basic

/-!
# Tables under construction

While a document is read, a table has to remember how it came about, because that decides
what may still be added to it: a header may define a table that exists only because a longer
header or key went through it, and a dotted key may add to a table that dotted keys made.
-/

namespace Lamplight.Toml

/-- How a table came about. -/
inductive Origin
  /-- A longer header goes through it. -/
  | implied
  /-- A dotted key goes through it. -/
  | dotted
  /-- It has a header of its own, or it is the document. -/
  | defined
  deriving Repr, DecidableEq

/-- What stands under a key of a table under construction. -/
inductive Draft
  | leaf (value : Value)
  | table (origin : Origin) (entries : List (String × Draft))
  /-- An array of tables; each has a header of its own. -/
  | tables (elements : List (List (String × Draft)))
  deriving Repr, Inhabited

namespace Draft

/-- The entries of a table under construction. -/
abbrev Entries := List (String × Draft)

/-- Replace what stands under a key, or add it behind the others.  The function is told what
is there. -/
def update (key : String) (change : Option Draft → Except Fault Draft) :
    Entries → Except Fault Entries
  | [] => do return [(key, ← change none)]
  | entry :: rest =>
    if entry.1 = key then do return (key, ← change (some entry.2)) :: rest
    else do return entry :: (← update key change rest)

/-- Change the last element of a list. -/
def updateLast (change : Entries → Except Fault Entries) :
    List Entries → Except Fault (List Entries)
  | [] => .ok []
  | [last] => do return [← change last]
  | element :: rest => do return element :: (← updateLast change rest)

/-- Add a value under a key behind some others of a dotted key.  `isDotted` tells whether
dotted keys made the table at hand; only to such a table may they add. -/
def addValue (isDotted : Bool) (key : String) (value : Value) :
    (path : List String) → (atStart : Bool) → Entries → Except Fault Entries
  | [], atStart, entries =>
    if isDotted = atStart then .error (.repeated key)
    else
      entries |> update key fun
        | none => .ok (.leaf value)
        | some _ => .error (.repeated key)
  | step :: path, _, entries =>
    entries |> update step fun
      | none => do return .table .dotted (← addValue true key value path false [])
      | some (.leaf _) => .error (.notTable step)
      | some (.tables elements) => do
        return .tables (← updateLast (addValue false key value path false) elements)
      | some (.table .defined _) => .error (.repeated step)
      | some (.table origin entries) => do
        return .table origin (← addValue (origin == .dotted) key value path false entries)

/-- Add a value to a table: the keys before the last lead to tables within it. -/
def insertValue (path : List String) (key : String) (value : Value) (entries : Entries) :
    Except Fault Entries :=
  addValue false key value path true entries

/-- Change the table at the end of a path of headers; tables on the way are made if they are
missing, and of an array of tables the last one is taken. -/
def descend (change : Entries → Except Fault Entries) :
    (path : List String) → Entries → Except Fault Entries
  | [], entries => change entries
  | step :: path, entries =>
    entries |> update step fun
      | none => do return .table .implied (← descend change path [])
      | some (.leaf _) => .error (.notTable step)
      | some (.tables elements) => do return .tables (← updateLast (descend change path) elements)
      | some (.table origin entries) => do return .table origin (← descend change path entries)

/-- Define the table of a header. -/
def define (key : String) : Entries → Except Fault Entries :=
  update key fun
    | none => .ok (.table .defined [])
    | some (.table .implied entries) => .ok (.table .defined entries)
    | some _ => .error (.repeated key)

/-- Begin the next table of an array. -/
def extend (key : String) : Entries → Except Fault Entries :=
  update key fun
    | none => .ok (.tables [[]])
    | some (.tables elements) => .ok (.tables (elements ++ [[]]))
    | some _ => .error (.repeated key)

mutual

/-- The finished value. -/
def finish : Draft → Value
  | .leaf value => value
  | .table _ entries => .table (finishEntries entries)
  | .tables elements => .array (finishElements elements)

/-- The finished entries of a table. -/
def finishEntries : List (String × Draft) → List (String × Value)
  | [] => []
  | (key, draft) :: rest => (key, finish draft) :: finishEntries rest

/-- The finished tables of an array. -/
def finishElements : List (List (String × Draft)) → List Value
  | [] => []
  | entries :: rest => .table (finishEntries entries) :: finishElements rest

end

end Draft

end Lamplight.Toml
