import MoveBindings.CommandLine.Run

/-!
# The command

Reads the files that the arguments name, generates the project, and writes or
prints it.
-/

namespace MoveBindings.CommandLine

/-- Why a file could not be used. -/
def accessError : IO.Error → AccessError
  | .noFileOrDirectory .. => .missing
  | .alreadyExists .. => .alreadyExists
  | _ => .notDirectory

/-- The text of a file, or why there is none. -/
def readText (path : String) : IO (Except AccessError String) := do
  try
    return .ok (← IO.FS.readFile path)
  catch error =>
    return .error (accessError error)

/-- Writes a file and the directories on the way to it. -/
def writeText (path content : String) : IO Unit := do
  IO.FS.createDirAll (Path.ofString path).parent.text
  IO.FS.writeFile path content
  IO.print (writtenLine path)

/-- Runs an invocation on the files of the system. -/
def Invocation.perform (i : Invocation) : IO UInt32 := do
  let config ← readText (i.configPath.getD "")
  let generation := i.generate config (← readText i.manifest)
  IO.print (warningText generation.warnings)
  match generation.outcome with
  | .error (.reported message) =>
    IO.eprintln ("Error: " ++ message)
    return 1
  | .error (.aborted _) =>
    IO.eprintln "Error: a file cannot be used, or data is of the wrong kind"
    return 1
  | .ok files =>
    if i.stdout then IO.print (sections files)
    else for (path, content) in files.entries do writeText path content
    IO.eprint generation.log.report
    return 0

end MoveBindings.CommandLine

open MoveBindings.CommandLine in
/-- Runs the command with its arguments. -/
def main (arguments : List String) : IO UInt32 :=
  match parse arguments with
  | .error .help => do
    IO.print help
    return 0
  | .error (.usage error) => do
    IO.eprint error.report
    return 2
  | .ok invocation => invocation.perform
