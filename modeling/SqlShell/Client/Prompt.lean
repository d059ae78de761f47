import SqlShell.Job.Console

/-!
The prompt that asks the user for lines, and the history of the lines that were entered.
-/

namespace SqlShell

/-- What the user answers to a prompt: a line, nothing, a fault such as an interrupt, or a line
before which the client is closed.
-/
inductive Answer where
  | line (text : String)
  | nothing
  | fault (fault : Fault)
  | closing (text : String)
  deriving Repr

namespace Prompt

open Act

/-- The fault that says that there are no more answers. -/
def endOfInput : Fault :=
  { kind := .endOfInput, message := "" }

/-- The line that an answer gives; nothing counts as an empty line. -/
def receive : Answer → Act String
  | .line text => return text
  | .nothing => return ""
  | .fault fault => fail fault
  | .closing text => do
      change fun job => { job with clientClosed := true }
      return text

/-- The line of the user's next answer, if there is one left. -/
def receiveNext : Option Answer → Act String
  | some answer => receive answer
  | none => fail endOfInput

/-- Creates what a file problem tells about, and tells whether there was a problem of the
system. Other problems are faults.
-/
def systemRefuses (result : Except FileProblem Unit × FileTree) : Act Bool := do
  change fun job => { job with files := result.2 }
  match result.1 with
  | .ok _ => return false
  | .error problem => if problem.fault.kind.isSystem then return true else fail problem.fault

/-- Creates the file that keeps the history, and the directories above it. If the system does
not let that happen the history is kept in memory only.
-/
def openHistory (path : Path) : Act History := do
  let inMemory : Act History := do
    log .warning ("Unable to create history file " ++ path.text
      ++ ", command history is not saved")
    return .memory
  if ← systemRefuses ((← state).files.ensureDirectory path.parent) then
    inMemory
  else
    let files := (← state).files
    let touched := match files.touch path with
      | .ok files => (.ok (), files)
      | .error problem => (.error problem, files)
    if ← systemRefuses touched then
      inMemory
    else
      log .info ("Command history file path: " ++ path.text)
      return .file path.text

/-- Gets a prompt ready that keeps its history in a file. The prompt and its history need a
library each.
-/
def ready (path : Path) : Act History := do
  let job ← state
  if job.missing.contains "questionary" then
    fail (missingLibrary "questionary")
  if job.lacksLibrary "prompt_toolkit" "history" then
    fail (missingModule "prompt_toolkit")
  openHistory path

/-- Shows a prompt that keeps its history. -/
def ask (history : History) (message : String) : Act Unit := do
  record (.ask history)
  record (.prompt message)

end Prompt

end SqlShell
