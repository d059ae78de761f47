import SqlShell.Environment.Basic
import SqlShell.Fault
import SqlShell.Files.Locator
import SqlShell.Job.Event
import SqlShell.Options.Basic

/-!
The state of a running job: what it has done so far, what it finds around it, and what it
keeps between its actions. All of it is data, so that sessions and hooks refer to executors by
their place and not by themselves.
-/

namespace SqlShell

/-- How output reaches the user: it is only noted, or written as it is, or laid out for a
terminal with so many columns.
-/
inductive Terminal where
  | noted
  | verbatim
  | laidOut (columns : Nat)
  deriving DecidableEq, Repr

/-- What the database answers to a statement: a fault, a signal that reaches the job
meanwhile, or rows under columns and a number of changed rows; without columns there is no result
set. Fetching the rows may fail.
-/
inductive Reply where
  | fault (fault : Fault)
  | signal (number : Nat)
  | answer (columns : Option (List String)) (rows : List (List Value)) (changed : Int)
      (fetching : Option Fault)
  deriving Repr

/-- The answer of a statement without a result. -/
def Reply.nothing : Reply :=
  .answer none [] (-1) none

/-- A database: what comes of each attempt to connect, of each statement and of closing each
connection, by their numbers.
-/
structure Database where
  connecting : Nat → String → Option Fault := fun _ _ => none
  reply : Nat → Reply := fun _ => .nothing
  closing : Nat → Option Fault := fun _ => none

/-- A session of an executor of this job. -/
structure LocalSession where
  environment : Environment
  configuration : Entries
  connection : Nat
  deriving Repr

/-- An executor of this job: what it was made with, what starting it has found, and its open
sessions by their identifiers.
-/
structure LocalExecutor where
  defaults : Option Setting := none
  jars : List Setting := []
  libraries : List Setting := []
  directory : Option Path := none
  started : Bool := false
  base : Entries := []
  initial : Environment := {}
  sessions : List (String × LocalSession) := []
  deriving Repr

/-- What comes of the calls of an executor elsewhere. The session may get another handle than it
was asked for.
-/
structure RemoteExecutor where
  starting : Option Fault := none
  opening : Option Fault := none
  handle : Option String := none
  closing : Option Fault := none
  configuration : Except Fault Entries := .ok []

/-- An executor: the one with a number in this job, or one elsewhere. -/
inductive Executor where
  | here (number : Nat)
  | elsewhere (remote : RemoteExecutor)

/-- An open session: its handle, and the executor that it belongs to. -/
structure Session where
  handle : String
  executor : Executor

/-- Who is told short notices: nobody, the user on the stream of diagnostics, or a listener that
notes them and may fail, on one of them only if that one is given.
-/
inductive Listener where
  | nobody
  | user
  | noting (failing : Option (Fault × Option String))
  deriving Repr

/-- The two registries of hooks: one that is made for a purpose, and the one of the job. -/
inductive RegistryName where
  | special
  | standard
  deriving DecidableEq, Repr

/-- A hook that closes a session, and whether it has run. -/
structure SessionHook where
  session : Session
  listener : Listener
  fired : Bool := false

/-- A step of a program for hooks and registries. -/
inductive HookStep where
  | makeHook (name : String) (failing : Option Fault) (steps : List HookStep)
  | makeSessionHook (name : String) (session : Session) (listener : Listener)
  | register (registry : RegistryName) (name : String) (session : Session) (listener : Listener)
  | add (registry : RegistryName) (name : String)
  | remove (registry : RegistryName) (name : String)
  | call (name : String)
  | fired (name : String)
  | run (registry : RegistryName)
  | install (registry : RegistryName) (mainThread : Bool)
  | signal (registry : RegistryName) (number : Nat)
  deriving Inhabited

/-- A hook: one that closes a session, or one that runs a program and may fail after it. -/
inductive Hook where
  | session (hook : SessionHook)
  | program (name : String) (failing : Option Fault) (steps : List HookStep)

/-- A registry: the numbers of its hooks in order of registration, and whether it has been wired
into the job.
-/
structure Registry where
  hooks : List Nat := []
  installed : Bool := false
  deriving DecidableEq, Repr

/-- The state of a job. -/
structure Job where
  trace : List Event := []
  terminal : Terminal := .noted
  columns : Nat := 80
  missing : List String := []
  files : FileTree := ⟨[]⟩
  network : Url.Network := .unreachable
  vars : List (String × String) := []
  platform : String := "Linux"
  signals : List Nat := [15, 1]
  database : Database := {}
  attempts : Nat := 0
  connections : Nat := 0
  statements : Nat := 0
  executors : List LocalExecutor := []
  hooks : List Hook := []
  hookNames : List (String × Nat) := []
  special : Registry := {}
  standard : Registry := {}
  clientClosed : Bool := false

namespace Job

/-- Where a job reads texts from. -/
def sources (job : Job) : Sources :=
  { files := job.files, network := job.network }

/-- The state with one more event. -/
def note (job : Job) (event : Event) : Job :=
  { job with trace := job.trace ++ [event] }

/-- The registry with a name. -/
def registry (job : Job) : RegistryName → Registry
  | .special => job.special
  | .standard => job.standard

/-- The state with a registry changed. -/
def setRegistry (job : Job) (name : RegistryName) (registry : Registry) : Job :=
  match name with
  | .special => { job with special := registry }
  | .standard => { job with standard := registry }

/-- The last value of a variable. -/
def valueOf? (job : Job) (name : String) : Option String :=
  (job.vars.reverse.find? (·.1 == name)).map (·.2)

end Job

end SqlShell
