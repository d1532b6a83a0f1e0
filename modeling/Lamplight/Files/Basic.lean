import Lamplight.Files.Path

/-!
# Files

`Files m` is what this library asks of the place where files are kept, with effects in `m`:
reading a text, writing one, and seeing whether something is there.  What can go wrong is an
`AccessError`.
-/

namespace Lamplight

/-- Kinds of failed accesses that are told apart. -/
inductive AccessError.Kind
  | notFound
  | permissionDenied
  | connectionRefused
  | connectionReset
  | timedOut
  | other
  deriving Repr, DecidableEq

/-- Why an access failed. -/
inductive AccessError
  /-- Nothing is there. -/
  | missing
  /-- A name on the way is not that of a directory. -/
  | notDirectory
  /-- A directory is where a file is wanted. -/
  | isDirectory
  /-- The content of a file is no text in UTF-8. -/
  | notText
  /-- A path or a name in it is longer than it may be. -/
  | nameTooLong
  /-- A path holds the character that ends a path for the system. -/
  | cutName
  /-- Anything else, as the system reports it. -/
  | reported (kind : AccessError.Kind) (message : String)
  deriving Repr, DecidableEq

namespace AccessError

/-- The kind of a failed access. -/
def kind : AccessError → Kind
  | .missing => .notFound
  | .notDirectory | .isDirectory | .notText | .nameTooLong | .cutName => .other
  | .reported kind _ => kind

/-- A failed access in words. -/
def message : AccessError → String
  | .missing => "No such file or directory (os error 2)"
  | .notDirectory => "Not a directory (os error 20)"
  | .isDirectory => "Is a directory (os error 21)"
  | .notText => "stream did not contain valid UTF-8"
  | .nameTooLong => "File name too long (os error 36)"
  | .cutName => "file name contained an unexpected NUL byte"
  | .reported _ message => message

end AccessError

/-- Access to files. -/
structure Files (m : Type → Type) where
  /-- The content of a file as a text. -/
  readText : Path → m (Except AccessError String)
  /-- Replace the content of a file; the file is made if its directory is there. -/
  writeText : Path → String → m (Except AccessError Unit)
  /-- Whether a file or a directory is there. -/
  contains : Path → m Bool

end Lamplight
