import SqlShell.Client.Prompt
import SqlShell.Client.Result
import SqlShell.Statement.Keyword
import SqlShell.Value.Order

/-!
The client of one session: it runs scripts and single updates, and an interactive shell that
collects lines until they end a statement.
-/

namespace SqlShell

/-- A client: its session, the file that keeps its history, and whether it asks for lines by a
prompt with history.
-/
structure Client where
  session : Session
  history : Path
  prompts : Bool := true

namespace Client

open Act

/-- The prompt before the first line of a statement. -/
def promptText : String :=
  "Flink SQL> "

/-- The prompt before the other lines of a statement. -/
def continuationText : String :=
  "> "

/-- The commands that leave the shell. -/
def quitCommands : List String :=
  ["QUIT", "EXIT"]

/-- The notice that welcomes the user. -/
def welcomeNotice : String :=
  "Welcome! Enter 'HELP;' to list all available commands. 'QUIT;' to exit."

/-- The notice that explains the commands. -/
def helpNotice : String :=
  "\n".intercalate [
    "The following commands are available:",
    "",
    "HELP;        Prints the available commands.",
    "QUIT; EXIT;  Quits the SQL CLI client.",
    "SET;         Shows the configuration of the session.",
    "",
    "Any other statement is sent to the session.  Statements may span",
    "several lines and end with ';'."
  ]

/-- The wording of a statement that is no single update. -/
def unsupportedUpdate : String :=
  "Unsupported SQL statement! Only statements of type "
    ++ ", ".intercalate Statement.updateKeywords ++ " can be submitted as an update."

/-- Shows an error on the stream of diagnostics. -/
def showError (message : String) : Act Unit :=
  Console.notice .err ("[ERROR] " ++ message)

/-- Sends a statement to the session of the client. -/
def execute (client : Client) (statement : List Char) : Act StatementResult :=
  client.session.executor.execute client.session.handle (String.ofList statement)

/-- The fault says that a statement failed. -/
def isStatementFault (kind : FaultKind) : Bool :=
  kind = .client .execution

/-- Closes the client, once. -/
def close (client : Client) : Act Unit := do
  if !(← state).clientClosed then
    change fun job => { job with clientClosed := true }
    log .debug ("Closed CLI client for session " ++ client.session.handle)

/-- Runs the statements of a script up to the first one that fails. -/
def executeFile (client : Client) (content : String) : Act Unit :=
  forEach (Statement.split content.toList) fun statement => do
    Console.notice .out (promptText ++ String.ofList statement ++ ";")
    (← client.execute statement).shown
    Console.notice .out ""

/-- Submits an update and tells whether it was accepted. A text that is not a single update is
refused, and is not sent.
-/
def submitUpdate (client : Client) (text : String) : Act Bool := do
  match Statement.split text.toList with
  | [statement] =>
      if !Statement.isUpdate statement then
        showError unsupportedUpdate
        return false
      match ← (client.execute statement).observe with
      | .error fault => do
          if !isStatementFault fault.kind then
            fail fault
          showError fault.message
          return false
      | .ok result => do
          Console.notice .out "[INFO] Statement has been submitted."
          if 0 ≤ result.changed then
            Console.notice .out (StatementResult.changedNotice result.changed)
          return true
  | _ => do
      showError unsupportedUpdate
      return false

/-- Shows the configuration of the session, in the order of its keys. -/
def showConfiguration (client : Client) : Act Unit := do
  let configuration ← client.session.executor.configuration client.session.handle
  if configuration.isEmpty then
    Console.notice .out "[INFO] Session configuration is empty."
  else
    let sorted ← ofResult (configuration.sorted.mapError fun problem =>
      { kind := .type, message := problem.message })
    forEach sorted fun (key, value) => do
      Console.notice .out ((← ofResult key.shown) ++ "=" ++ (← ofResult value.shown))

/-- Runs a statement of the shell, which may be one of its commands, and tells whether the user
stays. A statement that fails is shown as an error.
-/
def runStatement (client : Client) (statement : List Char) : Act Bool := do
  if quitCommands.any (Statement.isCommand · statement) then
    return false
  else if Statement.isCommand "HELP" statement then
    Console.notice .out helpNotice
    return true
  else if Statement.isCommand "SET" statement then
    client.showConfiguration
    return true
  else
    let send : Act Unit := do
      (← client.execute statement).shown
    send.rescue isStatementFault fun fault => showError fault.message
    return true

/-- Runs statements of the shell until the user leaves, and tells whether the user stays. -/
def runStatements (client : Client) : List (List Char) → Act Bool
  | [] => return true
  | statement :: rest => do
      if ← client.runStatement statement then
        client.runStatements rest
      else
        Console.notice .out "Goodbye!"
        return false

/-- Runs the shell on the remaining answers of the user, with the lines that are collected for a
statement under way. An interrupt drops these lines. Without another answer the input has ended.
-/
def runShell (client : Client) (ask : String → Act Unit)
    : List Answer → List (List Char) → Act Unit
  | answers, lines => do
      if (← state).clientClosed then
        return ()
      ask (if lines.isEmpty then promptText else continuationText)
      match answers with
      | [] => return ()
      | answer :: rest =>
          match ← (Prompt.receive answer).observe with
          | .error fault =>
              if fault.kind = .interrupt then
                client.runShell ask rest []
              else if fault.kind = .endOfInput then
                return ()
              else
                fail fault
          | .ok line =>
              let line := line.toList
              if lines.isEmpty && (Text.trim line).isEmpty then
                client.runShell ask rest lines
              else
                let lines := lines ++ [line]
                let text := Text.joinLines lines
                if Statement.isComplete text then
                  if ← client.runStatements (Statement.split text) then
                    client.runShell ask rest []
                else
                  client.runShell ask rest lines

/-- The way to ask for a line. -/
def asking (client : Client) : Act (String → Act Unit) := do
  if client.prompts then
    return Prompt.ask (← Prompt.ready client.history)
  else
    return fun message => record (.prompt message)

/-- Opens the interactive shell for a user who gives the answers. -/
def openShell (client : Client) (answers : List Answer) : Act Unit := do
  let ask ← client.asking
  Console.notice .out welcomeNotice
  client.runShell ask answers []

end Client

end SqlShell
