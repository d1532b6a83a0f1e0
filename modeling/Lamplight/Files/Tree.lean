import Lamplight.Files.Basic

/-!
# Trees of files

A file tree held in memory.  A path is followed name by name from the current directory or
from the top; every name before the last must be that of a directory.
-/

namespace Lamplight

/-- Where something is in a file tree: the names from the top down. -/
abbrev Location := List String

/-- What is at a location. -/
inductive Node
  | file (content : ByteArray)
  | directory

/-- Files and directories, and the directory in which relative paths start. -/
structure FileTree where
  /-- What is at each location below the top. -/
  node? : Location → Option Node
  /-- The current directory. -/
  current : Location

namespace FileTree

/-- The tree with an empty current directory. -/
def bare (current : Location) : FileTree where
  node? location := if location <+: current then some .directory else none
  current

/-- The location that a name leads to; the two names of dots mean the same directory and the
one above. -/
def next (location : Location) (name : String) : Location :=
  if name = "." then location
  else if name = ".." then location.dropLast
  else location ++ [name]

/-- How many bytes a name may have. -/
def nameLimit : Nat := 255

/-- How many bytes a path may have. -/
def pathLimit : Nat := 4095

/-- Go from a location, which must be that of a directory, to a name in it. -/
def enter (tree : FileTree) (location : Location) (name : String) :
    Except AccessError Location :=
  match tree.node? location with
  | none => .error .missing
  | some (.file _) => .error .notDirectory
  | some .directory =>
    if nameLimit < name.utf8ByteSize then .error .nameTooLong else .ok (next location name)

/-- The location where a path starts. -/
def start (tree : FileTree) (path : Path) : Location :=
  if path.isAbsolute then [] else tree.current

/-- The location that a path leads to.  Nothing has to be there. -/
def follow (tree : FileTree) (path : Path) : Except AccessError Location :=
  if path.text = "" then .error .missing
  else if path.text.toList.contains '\x00' then .error .cutName
  else if pathLimit < path.text.utf8ByteSize then .error .nameTooLong
  else path.names.foldlM tree.enter (tree.start path)

/-- What a path leads to. -/
def find (tree : FileTree) (path : Path) : Except AccessError Node := do
  let location ← tree.follow path
  match tree.node? location with
  | none => throw .missing
  | some (.file content) =>
    if path.endsInSlash then throw .notDirectory else return .file content
  | some .directory => return .directory

/-- Whether a path leads to something. -/
def contains (tree : FileTree) (path : Path) : Bool :=
  (tree.find path).toOption.isSome

/-- The text of the file that a path leads to. -/
def readText (tree : FileTree) (path : Path) : Except AccessError String := do
  match ← tree.find path with
  | .directory => throw .isDirectory
  | .file content =>
    match String.fromUTF8? content with
    | none => throw .notText
    | some text => return text

/-- The tree with something else at a location. -/
def update (tree : FileTree) (location : Location) (node : Node) : FileTree :=
  { tree with node? := fun other => if other = location then some node else tree.node? other }

/-- The tree after writing a text to the file that a path leads to. -/
def writeText (tree : FileTree) (path : Path) (text : String) :
    Except AccessError FileTree := do
  let location ← tree.follow path
  match tree.node? location with
  | some .directory => throw .isDirectory
  | _ =>
    if path.endsInSlash then throw .isDirectory
    else return tree.update location (.file text.toUTF8)

/-- The location that a path leads to when every directory on the way is made. -/
def destination (tree : FileTree) (path : Path) : Location :=
  path.names.foldl next (tree.start path)

/-- The tree with something at a path and with all directories on the way to it. -/
def place (tree : FileTree) (path : Path) (node : Node) : FileTree :=
  let location := tree.destination path
  let paved : FileTree :=
    { tree with node? := fun other =>
        if other <+: location && (tree.node? other).isNone then some .directory
        else tree.node? other }
  paved.update location node

/-- The tree with a file of some bytes at a path. -/
def placeFile (tree : FileTree) (path : Path) (content : ByteArray) : FileTree :=
  tree.place path (.file content)

/-- The tree with a directory at a path. -/
def placeDirectory (tree : FileTree) (path : Path) : FileTree :=
  tree.place path .directory

/-- The tree without what a path leads to. -/
def remove (tree : FileTree) (path : Path) : FileTree :=
  let location := tree.destination path
  { tree with node? := fun other => if location <+: other then none else tree.node? other }

end FileTree

/-- Access to the files of a tree that is part of the state. -/
def Files.ofTree (m : Type → Type) [Monad m] [MonadStateOf FileTree m] : Files m where
  readText path := return (← getThe FileTree).readText path
  writeText path text := do
    match (← getThe FileTree).writeText path text with
    | .error error => return .error error
    | .ok tree =>
      set tree
      return .ok ()
  contains path := return (← getThe FileTree).contains path

end Lamplight
