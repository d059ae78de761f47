import SqlShell.Display.Table
import SqlShell.Job.Act

/-!
Output to the user. Notices are free of markup, while printed text may hold some; both may name
emoji. Where the library that lays output out is missing, both are written as they are.
-/

namespace SqlShell

/-- The fault of using a missing library. -/
def missingModule (library : String) : Fault :=
  { kind := .missingModule, message := "No module named '" ++ library ++ "'" }

/-- The failure that names a missing library, with the way to install it. -/
def missingLibrary (library : String) : Fault :=
  (Fault.client .missingDependency
    (library ++ " is not installed. Install with: pip install " ++ library)).because
    (missingModule library)

namespace Job

/-- A part of a library is missing, or all of it. -/
def lacksLibrary (job : Job) (library part : String) : Bool :=
  job.missing.contains library || job.missing.contains (library ++ "." ++ part)

/-- A part of the library that lays output out is missing, or all of it. -/
def lacks (job : Job) (part : String) : Bool :=
  job.terminal = .verbatim || job.lacksLibrary "rich" part

/-- The way output reaches the user after all: without the library nothing is laid out. -/
def output (job : Job) : Terminal :=
  match job.terminal with
  | .laidOut columns => if job.lacks "console" then .verbatim else .laidOut columns
  | terminal => terminal

/-- Text as markup that shows it as it is; without the library text is not escaped. -/
def escaped (job : Job) (text : String) : String :=
  if job.lacks "markup" then text else String.ofList (Markup.escape text.toList)

end Job

namespace Console

open Act

/-- Writes to a stream. -/
def write (stream : Stream) (text : List Char) : Act Unit :=
  record (.written stream (String.ofList text))

/-- Writes what a terminal shows. -/
def display (stream : Stream) (shown : Except Display.Problem Display.Written) : Act Unit := do
  let written ← ofResult (shown.mapError Display.Problem.fault)
  write stream written.text
  match written.problem with
  | none => pure ()
  | some problem => fail (Display.cutFault problem)

/-- Shows a text without reading markup in it. -/
def notice (stream : Stream) (text : String) : Act Unit := do
  match (← state).output with
  | .noted => record (.notice stream text)
  | .verbatim => write stream (text.toList ++ ['\n'])
  | .laidOut columns =>
      display stream (Display.onTerminal columns (.plain (Emoji.replaceNames text.toList)))

/-- Prints a text with markup. -/
def print (stream : Stream) (text : String) : Act Unit := do
  match (← state).output with
  | .noted => record (.markup stream text)
  | .verbatim => write stream (text.toList ++ ['\n'])
  | .laidOut columns => do
      let shown ← ofResult ((Markup.render text.toList).mapError Markup.Problem.fault)
      display stream (Display.onTerminal columns shown)

/-- What stands for a table that is written without being laid out. -/
def tableName : String := "<rich.table.Table>"

/-- Refuses to go on if the library that lays tables out is missing. -/
def requireTables : Act Unit := do
  if (← state).lacks "table" then
    fail (missingLibrary "rich")

/-- Prints a table. -/
def table (headings : List String) (rows : List (List String)) : Act Unit := do
  match (← state).output with
  | .noted => record (.table headings rows)
  | .verbatim => write .out (tableName.toList ++ ['\n'])
  | .laidOut columns => display .out (Display.table columns headings rows)

/-- Tells a listener a notice. -/
def tell (listener : Listener) (text : String) : Act Unit :=
  match listener with
  | .nobody => pure ()
  | .user => notice .err text
  | .noting failing => do
      noteCall "notice" [.text text]
      match failing with
      | none => pure ()
      | some (fault, only) => if only.all (· == text) then fail fault

end Console

end SqlShell
