/-!
# Paths

A path is a text of names with slashes between them.  It is kept as it was given, because
messages show it, and taken apart where it is followed.
-/

namespace Lamplight

/-- The path of a file or a directory. -/
structure Path where
  text : String
  deriving Repr, DecidableEq

namespace Path

/-- Whether a path starts at the top of the file tree. -/
def isAbsolute (path : Path) : Bool := path.text.toList.head? == some '/'

/-- Whether a path ends in a slash, so that it can only lead to a directory. -/
def endsInSlash (path : Path) : Bool := path.text.toList.getLast? == some '/'

/-- The names of a path from the first to the last. -/
def names (path : Path) : List String :=
  ((path.text.toList.splitOn '/').filter fun name => !name.isEmpty).map String.ofList

/-- A path that goes on from another one with one more name. -/
def join (path : Path) (name : String) : Path :=
  if path.text = "" then ⟨name⟩
  else if path.endsInSlash then ⟨path.text ++ name⟩
  else ⟨path.text ++ "/" ++ name⟩

/-- The name of the file that a path leads to.  Dots that stay in the directory before them do
not count; a path to the directory above has no file name. -/
def fileName? (path : Path) : Option String :=
  match (path.names.filter (· ≠ ".")).getLast? with
  | some ".." => none
  | name => name

/-- What stands behind the last dot of a file name; a dot at the start of the name does not
count. -/
def extension? (path : Path) : Option String := do
  let name ← path.fileName?
  let reversed := name.toList.reverse
  match reversed.dropWhile (· ≠ '.') with
  | _ :: _ :: _ => some (String.ofList (reversed.takeWhile (· ≠ '.')).reverse)
  | _ => none

end Path

end Lamplight
