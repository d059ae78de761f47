import SqlShell.Environment.Files
import SqlShell.Executor.Dependencies
import SqlShell.Job.Act
import SqlShell.Value.Text

/-!
The executors of this job: starting one finds its dependencies and its configuration, and
each of its sessions holds a connection to the database from its opening to its closing.
-/

namespace SqlShell.LocalExecutor

open Act

/-- The key of the configuration that names the database of a session. -/
def databaseKey : Value :=
  .text "sql-client.database"

/-- The database of sessions that name none. -/
def memoryDatabase : String :=
  ":memory:"

/-- The failure of a call to an executor. -/
def failure (message : String) : Fault :=
  .client .execution message

/-- The executor with a number. -/
def withNumber (number : Nat) : Act LocalExecutor := do
  return ((← state).executors[number]?).getD {}

/-- Puts an executor in the place of the one with a number. -/
def replace (number : Nat) (executor : LocalExecutor) : Act Unit :=
  change fun job => { job with executors := job.executors.set number executor }

/-- Makes an executor. It takes the configuration directory from the variables unless one is
given.
-/
def make (defaults : Option Setting) (jars libraries : List Setting)
    (directory : Option Path := none) : Act Nat := do
  let job ← state
  let directory := directory.or (configurationDirectory job.vars)
  change fun job =>
    { job with
      executors := job.executors ++ [{ defaults, jars, libraries, directory }] }
  return job.executors.length

/-- The locator of the defaults of an executor: the one it was made with, or the file for them in
its configuration directory if there is one.
-/
def defaultsLocator (executor : LocalExecutor) (tree : FileTree)
    : Except Fault (Option Setting) :=
  match executor.defaults, executor.directory with
  | some locator, _ => .ok (some locator)
  | none, none => .ok none
  | none, some directory => do
      let file := directory.child defaultsFile
      let there ← (tree.isFile file).mapError FileProblem.fault
      return if there then some (.text file.text) else none

/-- Starts an executor, and tells its dependencies. -/
def start (number : Nat) : Act (List Path) := do
  let executor ← withNumber number
  let job ← state
  let dependencies ← ofResult (findDependencies job.files executor.jars executor.libraries)
  forEach dependencies fun path => log .debug ("Using dependency " ++ path.text)
  let base ← ofResult (readConfiguration job.files executor.directory)
  let executor := { executor with base }
  replace number executor
  match ← ofResult (executor.defaultsLocator job.files) with
  | none => replace number { executor with started := true }
  | some locator => do
      log .info ("Using default environment file: " ++ locator.shown)
      let initial ← ofResult (locator.key >>= Environment.read job.sources)
      replace number { executor with initial, started := true }
  return dependencies

/-- The configuration of a new session: the flat file, below the defaults, below the environment
of the session.
-/
def sessionConfiguration (executor : LocalExecutor) (environment : Environment) : Entries :=
  (executor.base.update executor.initial.configuration).update environment.configuration

/-- The database that a configuration names. -/
def databaseOf (configuration : Entries) : Except Fault String :=
  ((configuration.find? databaseKey).map Value.shown).getD (.ok memoryDatabase)

/-- The session with a handle. -/
def session? (executor : LocalExecutor) (handle : String) : Option LocalSession :=
  (executor.sessions.find? (·.1 == handle)).map (·.2)

/-- The session with a handle is open. -/
def isOpen (executor : LocalExecutor) (handle : String) : Bool :=
  (executor.session? handle).isSome

/-- Connects to a database, and numbers the connection if that succeeds. -/
def connect (database : String) : Act Nat := do
  let job ← state
  let fault := job.database.connecting job.attempts database
  let number := job.connections + 1
  change fun job => { job with attempts := job.attempts + 1 }
  match fault with
  | some fault => do
      record (.connect database none)
      fail fault
  | none => do
      record (.connect database (some number))
      change fun job => { job with connections := number }
      return number

/-- Opens a session under an identifier, which becomes its handle. -/
def openSession (number : Nat) (identifier : Setting) (environment : Environment)
    : Act String := do
  let executor ← withNumber number
  if !executor.started then
    fail (failure "The executor has not been started.")
  let configuration := executor.sessionConfiguration environment
  let database ← ofResult (databaseOf configuration)
  let identifier ← ofResult identifier.key
  if executor.isOpen identifier then
    fail (failure
      ("Found another session with the same session identifier: " ++ identifier))
  let connection ← (connect database).rescue (·.isDatabase) fun fault =>
    fail ((failure ("Could not open database '" ++ database ++ "' for session " ++ identifier
      ++ ".")).because fault)
  let session := { environment, configuration, connection : LocalSession }
  replace number { executor with sessions := executor.sessions ++ [(identifier, session)] }
  log .info ("Opened local session " ++ identifier ++ " on " ++ database)
  return identifier

/-- Closes a connection. -/
def disconnect (connection : Nat) : Act Unit := do
  let fault := (← state).database.closing connection
  record (.disconnect connection)
  failIf fault

/-- Closes a session; a handle that is not open is ignored. A failure of the database to close
its connection is only logged.
-/
def closeSession (number : Nat) (handle : String) : Act Unit := do
  let executor ← withNumber number
  match executor.session? handle with
  | none => log .debug ("Session " ++ handle ++ " is already closed")
  | some session => do
      replace number
        { executor with sessions := executor.sessions.filter (·.1 != handle) }
      (disconnect session.connection).rescue (·.isDatabase) fun _ =>
        log .warning ("Error while closing session " ++ handle)
      log .info ("Closed session " ++ handle)

/-- The open session with a handle. -/
def openedSession (number : Nat) (handle : String) : Act LocalSession := do
  match (← withNumber number).session? handle with
  | some session => return session
  | none => fail (failure ("Invalid session identifier: " ++ handle))

/-- The configuration of the session with a handle. -/
def configuration (number : Nat) (handle : String) : Act Entries := do
  return (← openedSession number handle).configuration

end SqlShell.LocalExecutor
