import SqlShell.Executor.Local

/-!
Executors of either kind: in this job, or elsewhere. What comes of the calls to one elsewhere
is given, and the calls are noted.
-/

namespace SqlShell

namespace Executor

open Act

/-- Starts an executor. -/
def start : Executor → Act Unit
  | .here number => do
      let _ ← LocalExecutor.start number
  | .elsewhere remote => do
      noteCall "start" []
      failIf remote.starting

/-- Opens a session and tells its handle. -/
def openSession (executor : Executor) (identifier : Setting) (environment : Environment)
    : Act String :=
  match executor with
  | .here number => LocalExecutor.openSession number identifier environment
  | .elsewhere remote => do
      noteCall "open_session"
        [identifier.value, .map environment.configuration, .map environment.sections]
      failIf remote.opening
      return remote.handle.getD identifier.shown

/-- Closes a session; this may be done more than once. -/
def closeSession (executor : Executor) (handle : String) : Act Unit :=
  match executor with
  | .here number => LocalExecutor.closeSession number handle
  | .elsewhere remote => do
      noteCall "close_session" [.text handle]
      failIf remote.closing

/-- The configuration of a session. -/
def configuration (executor : Executor) (handle : String) : Act Entries :=
  match executor with
  | .here number => LocalExecutor.configuration number handle
  | .elsewhere remote => do
      noteCall "get_session_config" [.text handle]
      ofResult remote.configuration

end Executor

/-- Closes a session. -/
def Session.close (session : Session) : Act Unit :=
  session.executor.closeSession session.handle

end SqlShell
