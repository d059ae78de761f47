import SqlShell.Program.Dispatch

/-!
The boundary of the program: outcomes and defects become reports to the user and exit codes.
-/

namespace SqlShell.Program

open Act

/-- The exit codes: all went well, a failure was reported, a defect was reported, and the user
interrupted the program.
-/
def successCode : Nat := 0

/-- The exit code of a reported failure. -/
def failureCode : Nat := 1

/-- The exit code of a reported defect. -/
def defectCode : Nat := 2

/-- The exit code of an interrupt. -/
def interruptCode : Nat := 130

/-- Shows two empty lines. -/
def makeSpace : Act Unit := do
  Console.notice .err ""
  Console.notice .err ""

/-- Shows a failure, its hint unless that is empty, and its cause. -/
def render (fault : Fault) : Act Unit := do
  let job ← state
  Console.print .err ("[bold red]Error:[/bold red] " ++ job.escaped fault.message)
  match fault.hint with
  | some hint =>
      if !hint.isEmpty then
        Console.print .err ("[yellow]Hint:[/yellow] " ++ job.escaped hint)
  | none => pure ()
  match fault.causes with
  | cause :: _ => Console.notice .err cause.causeLine
  | [] => pure ()

/-- Logs and shows a failure. -/
def reportFailure (fault : Fault) : Act Nat := do
  makeSpace
  log .error ("SQL Client must stop. " ++ fault.message)
  log .debug "Failure details"
  render fault
  return failureCode

/-- Logs and shows a defect. -/
def reportDefect (fault : Fault) : Act Nat := do
  makeSpace
  log .error ("SQL Client must stop. " ++ Fault.unexpectedMessage)
  render (Fault.unexpected.because fault)
  return defectCode

/-- The exit code of a run, after what it ended in has been reported. Requests to stop are not
answered here.
-/
def exitCode (run : Act Outcome) : Act Nat := do
  match ← run.observe with
  | .ok .success => return successCode
  | .ok (.failure fault) => reportFailure fault
  | .error fault => if fault.kind.isOrdinary then reportDefect fault else fail fault

/-- Runs the program with arguments, for a user who gives the answers. -/
def run (arguments : List String) (answers : List Answer) : Act Nat :=
  exitCode (dispatch arguments answers)

/-- The code that a job ends with after a run: an interrupt by the user has its own one. -/
def jobCode (code : Act Nat) : Act Nat :=
  code.rescue (· = .interrupt) fun _ => do
    Console.print .err "\n[yellow]Aborted by user.[/yellow]"
    return interruptCode

/-- Runs the program to the end of its job, where the hooks that are registered run. -/
def toEnd (arguments : List String) (answers : List Answer) : Act Nat :=
  (jobCode (run arguments answers)).andFinally (Shutdown.runHooks Shutdown.call .standard)

/-- The code that a job ends with: a request to exit gives it, and other faults have that of a
failure.
-/
def endCode : Except Fault Nat → Nat
  | .ok code => code
  | .error fault =>
      if fault.kind = .exit then fault.message.toNat?.getD failureCode else failureCode

end SqlShell.Program
