import SqlShell.Client.Shell
import SqlShell.Options.Basic
import SqlShell.Session.HistoryFile

/-!
Running the mode that the options select in an open session: a script, a single update or the
interactive shell, in this order of choice. The front end that a mode runs in is entered before
it and left after it, however the mode ends.
-/

namespace SqlShell

/-- What comes of a run that does not end in a defect. -/
inductive Outcome where
  | success
  | failure (fault : Fault)
  deriving Repr

/-- The front end of a mode. Leaving it is told the fault that ended the mode, and tells whether
this fault is to be passed over.
-/
structure FrontEnd where
  enter : Act Unit
  executeFile : String → Act Unit
  submitUpdate : String → Act Bool
  openShell : Act Unit
  leave : Option Fault → Act Bool

namespace Mode

open Act

/-- The failure of an update that was not accepted. -/
def notSubmitted : Fault :=
  .client .submission "Could not submit given SQL update statement to cluster."

/-- The text of the script behind a locator. -/
def loadScript (read : String → Act String) (locator : String) : Act String :=
  (read locator).rescue FaultKind.isUnreadable fun fault =>
    fail ((Fault.client .scriptRead
      ("Fail to read content from the " ++ locator ++ ".")).because fault)

/-- Runs the mode that the options select. -/
def runSelected (front : FrontEnd) (read : String → Act String) (options : Options)
    : Act Unit := do
  match options.script, options.update with
  | some locator, _ => do
      log .info ("Executing SQL script " ++ locator.shown)
      front.executeFile (← loadScript read (← ofResult locator.key))
  | none, some statement => do
      log .info "Submitting single update statement"
      if !(← front.submitUpdate (← ofResult statement.script)) then
        fail notSubmitted
  | none, none => front.openShell

/-- Enters a front end, does something in it, and leaves it. -/
def within (front : FrontEnd) (act : Act Unit) : Act Unit := do
  front.enter
  match ← act.observe with
  | .ok _ => do
      let _ ← front.leave none
  | .error fault =>
      if !(← front.leave (some fault)) then
        fail fault

/-- Runs the mode that the options select in a session, in the front end that is made for it.
Failures of the client are told as outcomes.
-/
def run (make : Session → Path → Act FrontEnd) (read : String → Act String)
    (home : Option Path) (windows : Option Bool) (session : Session) (options : Options)
    : Act Outcome := do
  let history ← HistoryFile.path options.history home windows
  match options.conflicts with
  | conflict :: _ => return .failure conflict.fault
  | [] => do
      let act : Act Outcome := do
        let front ← make session history
        within front (runSelected front read options)
        return .success
      act.rescue FaultKind.isClient fun fault => return .failure fault

end Mode

namespace FrontEnd

open Act

/-- The client of a session as a front end, for a user who gives the answers. -/
def ofClient (answers : List Answer) (session : Session) (history : Path) : Act FrontEnd := do
  let client : Client := { session, history }
  change fun job => { job with clientClosed := false }
  return {
    enter := pure ()
    executeFile := client.executeFile
    submitUpdate := client.submitUpdate
    openShell := client.openShell answers
    leave := fun _ => do
      client.close
      return false
  }

/-- What comes of the calls of a front end elsewhere. -/
structure Remote where
  making : Option Fault := none
  entering : Option Fault := none
  executing : Option Fault := none
  submitting : Option Fault := none
  opening : Option Fault := none
  accepts : Bool := true
  passesOver : Bool := false

/-- A front end elsewhere, whose calls are noted. -/
def elsewhere (remote : Remote) (session : Session) (history : Path) : Act FrontEnd := do
  noteCall "factory" [.text session.handle, .text history.text]
  failIf remote.making
  return {
    enter := do
      noteCall "enter" []
      failIf remote.entering
    executeFile := fun text => do
      noteCall "execute_file" [.text text]
      failIf remote.executing
    submitUpdate := fun text => do
      noteCall "submit_update" [.text text]
      failIf remote.submitting
      return remote.accepts
    openShell := do
      noteCall "open" []
      failIf remote.opening
    leave := fun fault => do
      noteCall "exit" [(fault.map fun fault => Value.text fault.kind.name).getD .null]
      return remote.passesOver
  }

/-- Notes that a script is read, with what comes of it. -/
def readElsewhere (result : Except Fault String) (locator : String) : Act String := do
  noteCall "read" [.text locator]
  ofResult result

end FrontEnd

/-- Reads the script behind a locator. -/
def Mode.readLocal (locator : String) : Act String := do
  let text ← Act.ofResult (Locator.read (← Act.state).sources locator.toList)
  return String.ofList text

end SqlShell
