import Lamplight.Cli.Run
import Lamplight.Files.Tree

/-!
# The program on files in memory

A session runs the program on a file tree and keeps a transcript of all that it writes.
-/

namespace Lamplight.Cli

/-- What the program wrote. -/
structure Transcript where
  /-- The lines of output. -/
  output : List String
  /-- The lines about what went wrong or was done. -/
  reports : List String
  log : List LogRecord

namespace Transcript

/-- Nothing written. -/
def empty : Transcript := ⟨[], [], []⟩

end Transcript

/-- Effects on a file tree and on a transcript. -/
abbrev Session := StateT FileTree (StateM Transcript)

namespace Session

/-- Change the transcript. -/
def write (change : Transcript → Transcript) : Session Unit :=
  modifyThe Transcript change

/-- The surroundings of the program in a session.  No time passes in it. -/
def host (vars : Variables) (seed : UInt64) (accountHome : Option Path := none) : Host Session where
  files := .ofTree Session
  vars
  accountHome
  print line := write fun transcript => { transcript with output := transcript.output ++ [line] }
  report line := write fun transcript => { transcript with reports := transcript.reports ++ [line] }
  log record := write fun transcript => { transcript with log := transcript.log ++ [record] }
  sleep _ := return ()
  freshSeed := return seed

end Session

/-- What is left of a session. -/
structure Ending where
  status : ExitStatus
  tree : FileTree
  transcript : Transcript

/-- Run the program on its arguments, with a seed for runs that have none. -/
def runSession (tree : FileTree) (vars : Variables) (seed : UInt64)
    (arguments : List String) (accountHome : Option Path := none) : Ending :=
  let ((status, tree), transcript) :=
    ((run (Session.host vars seed accountHome) arguments).run tree).run Transcript.empty
  ⟨status, tree, transcript⟩

end Lamplight.Cli
