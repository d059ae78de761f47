import SqlShell.Shutdown.Program

/-!
Statements: sending one to the session of an executor, and what comes back.
-/

namespace SqlShell

/-- The result of a statement: rows under columns, and the number of changed rows, which is
negative if it is not known.
-/
structure StatementResult where
  columns : List String := []
  rows : List (List Value) := []
  changed : Int := -1
  deriving Repr

/-- The result has rows to show. -/
def StatementResult.isQuery (result : StatementResult) : Bool :=
  !result.columns.isEmpty

namespace Executor

open Act

/-- The next answer of the database. A signal that arrives meanwhile ends the job. -/
def nextReply : Act Reply := do
  let job ← state
  change fun job => { job with statements := job.statements + 1 }
  match job.database.reply job.statements with
  | .signal number => Shutdown.handleSignal Shutdown.call .standard number
  | .fault fault => fail fault
  | reply => return reply

/-- The result that an answer of the database stands for: rows if there are columns, and the
number of changed rows otherwise.
-/
def resultOf : Reply → Act StatementResult
  | .answer none _ changed _ => return { changed }
  | .answer (some columns) rows _ fetching => do
      failIf fetching
      return { columns, rows }
  | _ => return {}

/-- The result with everything that an answer holds. -/
def wholeResultOf : Reply → Act StatementResult
  | .answer columns rows changed fetching => do
      failIf fetching
      return { columns := columns.getD [], rows, changed }
  | _ => return {}

/-- Sends a statement to a session of an executor of this job. Failures of the database are
reported as failures of the statement.
-/
def executeHere (number : Nat) (handle statement : String) : Act StatementResult := do
  let session ← LocalExecutor.openedSession number handle
  let act : Act StatementResult := do
    record (.execute session.connection statement)
    resultOf (← nextReply)
  act.rescue (·.isDatabase) fun fault =>
    fail ((LocalExecutor.failure fault.message).because fault)

/-- Sends a statement to a session. -/
def execute (executor : Executor) (handle statement : String) : Act StatementResult :=
  match executor with
  | .here number => executeHere number handle statement
  | .elsewhere _ => do
      noteCall "execute" [.text handle, .text statement]
      wholeResultOf (← nextReply)

end Executor

end SqlShell
