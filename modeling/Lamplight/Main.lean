import Lamplight.Cli.Run

/-!
# The program

The command line on a real system.
-/

namespace Lamplight

/-- What the system says about a failed access. -/
def AccessError.ofSystem : IO.Error → AccessError
  | .noFileOrDirectory .. => .missing
  | .inappropriateType _ 20 _ => .notDirectory
  | .inappropriateType _ 21 _ => .isDirectory
  | .permissionDenied .. => .reported .permissionDenied "Permission denied (os error 13)"
  | error => .reported .other (toString error)

/-- The result of an access to the system. -/
def access {α : Type} (action : IO α) : IO (Except AccessError α) := do
  match ← action.toBaseIO with
  | .ok value => return .ok value
  | .error error => return .error (.ofSystem error)

/-- The files of the system. -/
def systemFiles : Files IO where
  readText path := do
    match ← access (IO.FS.readBinFile path.text) with
    | .error error => return .error error
    | .ok content =>
      match String.fromUTF8? content with
      | none => return .error .notText
      | some text => return .ok text
  writeText path text := access (IO.FS.writeFile path.text text)
  contains path := return (← access (IO.FS.realPath path.text)).toOption.isSome

/-- The variables that the program looks at. -/
def knownVariables : List String :=
  ["HOME", "XDG_CONFIG_HOME"] ++
    [Override.verbosity, .rulesPath, .hours, .seed, .tickMs].map Override.name

/-- The values of the known variables. -/
def systemVariables : IO Variables := do
  let values ← knownVariables.mapM fun name => do return (name, ← IO.getEnv name)
  return fun name => (values.lookup name).join

/-- The number of the account that a process runs under, as the status of the process has it. -/
def accountNumber? (status : String) : Option String :=
  (status.splitOn "\n").findSome? fun line =>
    match line.splitOn "\t" with
    | "Uid:" :: number :: _ => some number
    | _ => none

/-- The home directory of the account with a number, in a list of accounts with one to a line. -/
def homeOfAccount? (accounts number : String) : Option Path := do
  let lines := (accounts.splitOn "\n").map (·.splitOn ":")
  let fields ← lines.find? fun fields => fields[2]? == some number
  Path.ofText? (← fields[5]?)

/-- The home directory of the account that the program runs under. -/
def systemAccountHome : IO (Option Path) := do
  let status ← systemFiles.readText ⟨"/proc/self/status"⟩
  let accounts ← systemFiles.readText ⟨"/etc/passwd"⟩
  return do homeOfAccount? (← accounts.toOption) (← accountNumber? (← status.toOption))

/-- A seed from the random numbers of the system. -/
def systemSeed : IO UInt64 := do
  let bytes ← IO.getRandomBytes 8
  return bytes.toList.foldl (fun word byte => word * 256 + byte.toUInt64) 0

/-- The system as the surroundings of the program. -/
def systemHost (vars : Variables) (accountHome : Option Path) : Cli.Host IO where
  files := systemFiles
  vars
  accountHome
  print := IO.println
  report := IO.eprintln
  log record := IO.eprintln record.text
  sleep milliseconds := IO.sleep (UInt32.ofNat (min milliseconds 0xFFFFFFFF))
  freshSeed := systemSeed

end Lamplight

/-- Run the program. -/
def main (arguments : List String) : IO UInt32 := do
  let host := Lamplight.systemHost (← Lamplight.systemVariables) (← Lamplight.systemAccountHome)
  return (← Lamplight.Cli.run host arguments).code
