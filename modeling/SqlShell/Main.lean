import SqlShell.Program.Inputs
import SqlShell.Program.Report

/-!
The command line. It gathers what a run needs, lets it run, and writes what has come of it: the
texts for the two streams, new files and the exit code. The database answers every statement with
no result, and the network is out of reach.
-/

namespace SqlShell.Program

/-- The variables that a run looks at, where they are set. -/
def readVariables : IO (List (String × String)) :=
  ["HOME", configurationVariable].filterMapM fun name => do
    return (← IO.getEnv name).map (name, ·)

/-- The width of the terminal. -/
def readColumns : IO Nat := do
  return ((← IO.getEnv "COLUMNS").bind String.toNat?).getD 80

/-- The system lets the job look for the path, though perhaps not read what is there. -/
def canReach (path : Path) : IO Bool := do
  try
    let _ ← IO.FS.realPath path.text
    return true
  catch _ =>
    return false

/-- What is found at a path: a file, or a file or directory that is closed. -/
def findEntry (path : Path) : IO (Option (Path × FileEntry)) := do
  try
    return some (path, .file (← IO.FS.readBinFile path.text).toList)
  catch
    | .permissionDenied .. =>
        if ← canReach path then return some (path, .closedFile)
        else return some (path.parent, .closedDirectory)
    | _ => return none

/-- The lines that are left on the standard input. -/
partial def readAnswers (input : IO.FS.Stream) : IO (List Answer) := do
  let line ← input.getLine
  if line.isEmpty then
    return []
  let text := String.ofList (line.toList.reverse.dropWhile (· == '\n')).reverse
  return .line text :: (← readAnswers input)

/-- Writes what an event has for the streams. -/
def writeEvent : Event → IO Unit
  | .written .out text => IO.print text
  | .written .err text => IO.eprint text
  | .prompt message => IO.print message
  | _ => return ()

/-- Creates what a run has added to the tree, if the system lets it. What is there already stays. -/
def createEntry : Path × FileEntry → IO Unit
  | (path, .file bytes) => do
      try
        IO.FS.withFile path.text .append (·.write (ByteArray.mk bytes.toArray))
      catch _ =>
        return ()
  | (path, _) => do
      try
        IO.FS.createDirAll path.text
      catch _ =>
        return ()

end SqlShell.Program

section

open SqlShell SqlShell.Program

/-- Runs the program with arguments. -/
def main (arguments : List String) : IO UInt32 := do
  let vars ← readVariables
  let columns ← readColumns
  let files := treeOf (← (neededPaths arguments vars).filterMapM findEntry)
  let answers ← if asksUser arguments then readAnswers (← IO.getStdin) else pure []
  let start : Job := { terminal := .laidOut columns, columns, files, vars }
  let (result, finish) := toEnd arguments answers start
  finish.trace.forM writeEvent
  (addedEntries files finish.files).forM createEntry
  return UInt32.ofNat (endCode result)

end
