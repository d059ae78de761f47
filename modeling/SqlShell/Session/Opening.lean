import SqlShell.Executor.Basic
import SqlShell.Options.Basic
import SqlShell.Job.Console

/-!
Opening the session that the options describe: an executor is made and started, the session
environment is read, and the overrides of the command line are put on top of it.
-/

namespace SqlShell.Session

open Act

/-- A way to make an executor from the locator of its defaults, its dependencies and its library
directories.
-/
abbrev Maker := Option Setting → List Setting → List Setting → Act Executor

/-- The session environment behind a locator; without one it is empty. A failure of the system
to read it is a failure of the client.
-/
def readEnvironment (read : String → Act Environment) (listener : Listener)
    : Option Setting → Act Environment
  | none => do
      Console.tell listener "No session environment specified."
      return .empty
  | some locator => do
      Console.tell listener ("Reading session environment from: " ++ locator.shown)
      log .info ("Using session environment file: " ++ locator.shown)
      let text ← ofResult locator.key
      (read text).rescue FaultKind.isSystem fun fault =>
        fail ((Environment.unreadable text).because fault)

/-- Opens the session that the options describe. -/
def openWith (make : Maker) (read : String → Act Environment) (listener : Listener)
    (options : Options) : Act Session := do
  let executor ← make options.defaults (options.jars.getD []) (options.libraries.getD [])
  executor.start
  let environment ← readEnvironment read listener options.environment
  let environment := environment.merged options.worker
  let handle ← executor.openSession (options.session.getD (.text defaultSession)) environment
  log .info ("Opened session " ++ handle)
  return { handle, executor }

/-- Makes an executor of this job. -/
def makeLocal : Maker :=
  fun defaults jars libraries => do
    return .here (← LocalExecutor.make defaults jars libraries)

/-- Notes how an executor elsewhere is made, which may fail. -/
def makeRemote (failing : Option Fault) (remote : RemoteExecutor) : Maker :=
  fun defaults jars libraries => do
    let values (items : List Setting) : Value := .list (items.map Setting.value)
    noteCall "factory"
      [(defaults.map Setting.value).getD .null, values jars, values libraries]
    failIf failing
    return .elsewhere remote

/-- Reads the environment file behind a locator. -/
def readLocal (locator : String) : Act Environment := do
  ofResult (Environment.read (← state).sources locator)

/-- Notes that an environment is read, with what comes of it. -/
def readRemote (result : Except Fault Environment) (locator : String) : Act Environment := do
  noteCall "parse" [.text locator]
  ofResult result

end SqlShell.Session
