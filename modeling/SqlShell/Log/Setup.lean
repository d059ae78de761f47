import SqlShell.Fault
import SqlShell.Files.Tree
import SqlShell.Text.UpperCase

/-!
The set-up of the log: which lines are kept, and where they are written. It is done once, when
the first part of the program asks for its log, unless it is forced to be done again.
-/

namespace SqlShell

/-- Where log lines are written: nowhere, to the stream of diagnostics, to a file, or to the
stream of diagnostics in a layout of its own.
-/
inductive LogTarget where
  | nowhere
  | stream
  | file (path : Path)
  | laidOut
  deriving DecidableEq, Repr

/-- The name of a target. -/
def LogTarget.name : LogTarget → String
  | .nowhere => "NullHandler"
  | .stream => "StreamHandler"
  | .file _ => "FileHandler"
  | .laidOut => "RichHandler"

/-- The level of lines that is asked for, by its name or its number. -/
inductive LevelRequest where
  | named (name : String)
  | numbered (number : Int)
  deriving DecidableEq, Repr

/-- The state of the log of the program, and what has been written so far. -/
structure LogSetup where
  targets : List LogTarget := []
  level : Int := 30
  inherits : Bool := false
  done : Bool := false
  written : List Char := []
  files : FileTree := ⟨[]⟩

namespace LogSetup

/-- The name of the log of the whole program. -/
def programLog : String :=
  "sql_client"

/-- The level of lines that are kept if no level is asked for. -/
def defaultLevel : String :=
  "WARNING"

/-- The names of levels that can be asked for. -/
def levelNames : List (String × Int) := [
  ("CRITICAL", 50), ("FATAL", 50), ("ERROR", 40), ("WARN", 30), ("WARNING", 30), ("INFO", 20),
  ("DEBUG", 10), ("NOTSET", 0)
]

/-- The name of a level in log lines. -/
def levelText (level : Int) : String :=
  if level = 50 then "CRITICAL"
  else if level = 40 then "ERROR"
  else if level = 30 then "WARNING"
  else if level = 20 then "INFO"
  else if level = 10 then "DEBUG"
  else if level = 0 then "NOTSET"
  else "Level " ++ toString level

/-- The level that a request means. -/
def levelOf : LevelRequest → Except Fault Int
  | .numbered number => .ok number
  | .named name =>
      let upper := String.ofList (Text.toUpper name.toList)
      match levelNames.find? (·.1 == upper) with
      | some (_, number) => .ok number
      | none => .error
          { kind := .value .general
            message := "Unknown level: " ++ String.ofList (Text.quoted upper.toList) }

/-- The path with its steps upwards taken by its text alone. -/
def lexical (path : Path) : Path :=
  { path with parts := (Place.ofPath path).path.parts }

/-- The tree with a file that lines can be added to, which is created if it is missing. -/
def openFile (tree : FileTree) (path : Path) : Except FileProblem FileTree :=
  match tree.walk path >>= tree.bytesAt with
  | .ok _ => .ok tree
  | .error .missing => tree.touch path
  | .error flaw => .error ⟨flaw, path.text⟩

/-- The target for a set-up, and the tree of files with it: a file if one is named, else a layout
of its own if there is one, else the plain stream.
-/
def chooseTarget (tree : FileTree) (hasLayout : Bool) (file : String)
    : Except Fault (LogTarget × FileTree) :=
  if file.isEmpty then
    .ok (if hasLayout then .laidOut else .stream, tree)
  else
    let path := lexical (.ofString file)
    (openFile tree path).mapError FileProblem.fault |>.map fun tree => (.file path, tree)

/-- Sets the log up unless that has been done. What is not asked for is taken from the variables.
A file that cannot be written leaves the log without target, and a level that is not known leaves
the rest as it was.
-/
def configure (setup : LogSetup) (vars : List (String × String)) (hasLayout : Bool)
    (level : Option LevelRequest) (file : Option String) (force : Bool)
    : Except Fault Unit × LogSetup :=
  if setup.done && !force then
    (.ok (), setup)
  else
    let valueOf? (name : String) := (vars.reverse.find? (·.1 == name)).map (·.2)
    let level := level.getD (.named ((valueOf? "SQL_CLIENT_LOG_LEVEL").getD defaultLevel))
    let file := (file.or (valueOf? "SQL_CLIENT_LOG_FILE")).getD ""
    match chooseTarget setup.files hasLayout file with
    | .error fault => (.error fault, { setup with targets := [] })
    | .ok (target, files) =>
        let setup := { setup with targets := [target], files }
        match levelOf level with
        | .error fault => (.error fault, setup)
        | .ok level => (.ok (), { setup with level, inherits := false, done := true })

/-- The name of the log that is asked for; the empty name is that of the root of all logs. -/
def logName (name : String) : String :=
  if name.isEmpty then "root" else name

/-- The log with a name belongs to the program. -/
def belongs (name : String) : Bool :=
  name == programLog || (programLog ++ ".").toList.isPrefixOf name.toList

/-- The level of lines that a log keeps: a level of zero leaves it to the root of all logs. -/
def keptLevel (setup : LogSetup) (name : String) : Int :=
  if belongs name && setup.level != 0 then setup.level else 30

/-- The text of a line. Its time is not told. -/
def lineText (name : String) (level : Int) (message : String) : List Char :=
  ("<time> | " ++ levelText level ++ " | " ++ name ++ " | " ++ message ++ "\n").toList

/-- Writes a text to a target. -/
def writeTo (line : List Char) (setup : LogSetup) : LogTarget → LogSetup
  | .stream => { setup with written := setup.written ++ line }
  | .file path =>
      let place := Place.ofPath path
      let bytes := match setup.files.entry? place with
        | some (.file bytes) => bytes
        | _ => []
      { setup with files := setup.files.set place (.file (bytes ++ Utf8.encode line)) }
  | _ => setup

/-- Writes a line to a log. Where no target is found, severe lines go to the stream of
diagnostics as they are.
-/
def emit (setup : LogSetup) (name : String) (level : Int) (message : String) : LogSetup :=
  let name := logName name
  if level ≤ 0 || level < setup.keptLevel name then
    setup
  else
    match if belongs name then setup.targets else [] with
    | [] =>
        if 30 ≤ level then
          { setup with written := setup.written ++ message.toList ++ ['\n'] }
        else
          setup
    | targets => targets.foldl (writeTo (lineText name level message)) setup

/-- The text on the stream of diagnostics, if lines are written there as they are. -/
def streamText? (setup : LogSetup) : Option String :=
  if setup.targets.contains .stream then some (String.ofList setup.written) else none

end LogSetup

end SqlShell
