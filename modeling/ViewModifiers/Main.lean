import ViewModifiers.CommandLine

/-!
# The program

Loads the part of the current directory that the command line names, runs the command on it and
writes what the run answers. A file that cannot be read as text counts as missing.
-/

namespace ViewModifiers

open Source

/-- The paths on a command line. -/
def CommandLine.namedPaths (args : List String) : List Path :=
  match CommandLine.readArguments .none args with
  | none => []
  | some a => (a.interfaces ++ a.parseableTypes.toList ++ a.config.toList).map Path.ofString

/-- Whether an entry of the current directory is on the way to one of several paths. -/
def isOnTheWay (paths : List Path) (entry : String) : Bool :=
  paths.any fun p => p.names.head?.all (· = entry)

/-- An entry of a directory with everything below it. -/
partial def loadEntry (above : List String) (entry : IO.FS.DirEntry) : IO FileTree := do
  let place := above ++ [entry.fileName]
  if ← entry.path.isDir then
    let parts ← (← entry.path.readDir).toList.mapM (loadEntry place)
    return (place, .directory) :: parts.flatten
  else
    try
      return [(place, .file (← IO.FS.readFile entry.path))]
    catch _ => return []

/-- The part of the current directory that a command line names. -/
def loadTree (args : List String) : IO FileTree := do
  let entries ← (← IO.currentDir).readDir
  let wanted := entries.toList.filter fun e =>
    isOnTheWay (CommandLine.namedPaths args) e.fileName
  return (← wanted.mapM (loadEntry [])).flatten

end ViewModifiers

/-- Runs a command line in the current directory. -/
def main (args : List String) : IO UInt32 := do
  let outcome := ViewModifiers.CommandLine.run (← ViewModifiers.loadTree args) args
  (← IO.getStderr).putStr outcome.errors
  (← IO.getStdout).putStr outcome.output
  return outcome.exit.toUInt32
