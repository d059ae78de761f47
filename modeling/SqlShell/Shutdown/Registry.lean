import SqlShell.Executor.Basic
import SqlShell.Job.Console

/-!
Hooks that close sessions when the job is stopped, and the registries that run them: at the
end of the job, and when a signal asks it to stop. A hook that fails keeps no other from
running.
-/

namespace SqlShell.Shutdown

open Act

/-- The notice before a session is closed. -/
def startNotice : String :=
  "\nShutting down the session..."

/-- The notice after a session is closed. -/
def endNotice : String :=
  "done."

/-- Adds a hook and tells its number. -/
def addHook (hook : Hook) : Act Nat := do
  let number := (← state).hooks.length
  change fun job => { job with hooks := job.hooks ++ [hook] }
  return number

/-- Runs a hook that closes a session, unless it has run before. The session is closed even if
the notice fails.
-/
def fire (number : Nat) (hook : SessionHook) : Act Unit :=
  if hook.fired then
    pure ()
  else do
    change fun job =>
      { job with hooks := job.hooks.set number (.session { hook with fired := true }) }
    (Console.tell hook.listener startNotice).andFinally hook.session.close
    Console.tell hook.listener endNotice

/-- How a hook is named in the log. -/
def hookText : Hook → String
  | .session _ => "<sql_client.core.shutdown.SessionShutdownHook>"
  | .program name _ _ => "<hook " ++ name ++ ">"

/-- Wires a registry into the job, once. Signals can be caught from the main thread only. -/
def install (name : RegistryName) (mainThread : Bool) : Act Unit := do
  let job ← state
  let registry := job.registry name
  if registry.installed then
    return ()
  change (·.setRegistry name { registry with installed := true })
  record .exitAction
  if mainThread then
    forEach job.signals fun signal => record (.signalAction signal)

/-- Changes the list of hooks of a registry. -/
def changeHooks (name : RegistryName) (f : List Nat → List Nat) : Act Unit :=
  change fun job =>
    let registry := job.registry name
    job.setRegistry name { registry with hooks := f registry.hooks }

/-- Registers a hook. -/
def add (name : RegistryName) (hook : Nat) : Act Unit :=
  changeHooks name (· ++ [hook])

/-- Takes back one registration of a hook, if there is one. -/
def remove (name : RegistryName) (hook : Nat) : Act Unit :=
  changeHooks name (·.erase hook)

/-- Runs every hook that is registered now by the given way to call hooks, the last one first.
Failures are logged and passed over.
-/
def runHooks (call : Nat → Act Unit) (name : RegistryName) : Act Unit := do
  let job ← state
  forEach (job.registry name).hooks.reverse fun number =>
    (call number).rescue FaultKind.isOrdinary fun _ =>
      log .error
        ("Shutdown hook " ++ ((job.hooks[number]?).map hookText).getD "" ++ " failed")

/-- Ends the job as a signal asks, after its hooks have run. -/
def handleSignal {α : Type} (call : Nat → Act Unit) (name : RegistryName) (signal : Nat)
    : Act α := do
  log .warning ("Received signal " ++ toString signal ++ ", shutting down")
  runHooks call name
  fail { kind := .exit, message := toString (128 + signal) }

/-- Registers a new hook that closes a session, in a registry that is wired in. -/
def register (name : RegistryName) (session : Session) (listener : Listener) : Act Nat := do
  let hook ← addHook (.session { session, listener })
  install name true
  add name hook
  log .debug ("Registered shutdown hook for session " ++ session.handle)
  return hook

end SqlShell.Shutdown
