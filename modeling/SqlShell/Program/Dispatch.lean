import SqlShell.Options.CommandLine
import SqlShell.Options.Usage
import SqlShell.Session.Mode
import SqlShell.Session.Opening

/-!
What the arguments ask for: a session in this job, which is opened, used by one mode and
closed again, or the usage of the program.
-/

namespace SqlShell.Program

open Act

/-- The version of the program. -/
def version : String :=
  "0.1.0"

/-- Shows the usage of the program. -/
def showUsage : Act Unit := do
  Console.notice .out (Usage.client (← state).columns)

/-- Shows the usage of the mode that runs a session. -/
def showEmbeddedUsage : Act Unit := do
  Console.notice .out (Usage.embedded (← state).columns)

/-- The failure of a mode that is reserved. -/
def unsupportedMode : Fault :=
  .client .unsupportedMode "Gateway mode is not supported yet."

/-- Opens a session, runs the mode that the options select, and closes the session however the
mode ends. A hook closes it if the job is stopped before. Conflicting options are refused
before anything is started.
-/
def runEmbedded (options : Options) (answers : List Answer) : Act Outcome := do
  match options.conflicts with
  | conflict :: _ => return .failure conflict.fault
  | [] => do
      match ← (Session.openWith Session.makeLocal Session.readLocal .user options).observe with
      | .error fault =>
          if fault.kind.isClient then return .failure fault else fail fault
      | .ok session => do
          let use : Act Outcome := do
            let _ ← Shutdown.register .standard session .user
            Mode.run (FrontEnd.ofClient answers) Mode.readLocal none none session options
          use.andFinally session.close

/-- Does what the arguments ask for; the first of them names the mode. -/
def dispatch (arguments : List String) (answers : List Answer) : Act Outcome := do
  match arguments with
  | mode :: rest =>
      if mode = embeddedMode then
        match CommandLine.parse rest with
        | .error problem => return .failure problem.fault
        | .ok options =>
            if options.help then
              showEmbeddedUsage
              return .success
            else
              runEmbedded options answers
      else if mode = gatewayMode then
        return .failure unsupportedMode
      else
        showUsage
        return .success
  | [] => do
      showUsage
      return .success

end SqlShell.Program
