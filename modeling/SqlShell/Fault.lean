/-!
Faults: what can go wrong, how the kinds of faults are grouped, and how a fault names the
faults that caused it.
-/

namespace SqlShell

/-- The failures that the client expects and reports to its user. -/
inductive ClientKind where
  | general
  | invalidOptions
  | conflictingOptions
  | unsupportedMode
  | environmentRead
  | scriptRead
  | execution
  | submission
  | missingDependency
  | unexpected
  deriving DecidableEq, Repr

/-- The failures of the operating system. -/
inductive SystemKind where
  | general
  | notFound
  | denied
  | isDirectory
  | notDirectory
  | alreadyExists
  | badUrl
  deriving DecidableEq, Repr

/-- The failures of values that have the wrong form. -/
inductive ValueKind where
  | general
  | encoding
  | code
  | name
  | padding
  deriving DecidableEq, Repr

/-- The failures of the database. -/
inductive DatabaseKind where
  | general
  | interface
  | database
  | data
  | operational
  | integrity
  | internal
  | programming
  | notSupported
  deriving DecidableEq, Repr

/-- The kinds of faults. An interrupt and an exit are not failures but requests to stop, which
only the outermost boundary answers.
-/
inductive FaultKind where
  | client (kind : ClientKind)
  | system (kind : SystemKind)
  | value (kind : ValueKind)
  | database (kind : DatabaseKind)
  | databaseWarning
  | document
  | request
  | runtime
  | type
  | endOfInput
  | missingModule
  | markup
  | key
  | index
  | attribute
  | overflow
  | division
  | interrupt
  | exit
  deriving DecidableEq, Repr

namespace FaultKind

/-- The names of a kind and of the groups it belongs to, from the narrowest on. -/
def names : FaultKind → List String
  | .client kind =>
      (match kind with
        | .general => []
        | .invalidOptions => ["InvalidOptionsError"]
        | .conflictingOptions => ["ConflictingOptionsError"]
        | .unsupportedMode => ["UnsupportedModeError"]
        | .environmentRead => ["EnvironmentReadError"]
        | .scriptRead => ["ScriptReadError"]
        | .execution => ["SqlExecutionError"]
        | .submission => ["StatementSubmissionError"]
        | .missingDependency => ["MissingDependencyError"]
        | .unexpected => ["UnexpectedError"]) ++ ["SqlClientError", "Exception"]
  | .system kind =>
      (match kind with
        | .general => []
        | .notFound => ["FileNotFoundError"]
        | .denied => ["PermissionError"]
        | .isDirectory => ["IsADirectoryError"]
        | .notDirectory => ["NotADirectoryError"]
        | .alreadyExists => ["FileExistsError"]
        | .badUrl => ["URLError"]) ++ ["OSError", "Exception"]
  | .value kind =>
      (match kind with
        | .general => []
        | .encoding => ["UnicodeDecodeError", "UnicodeError"]
        | .code => ["UnicodeEncodeError", "UnicodeError"]
        | .name => ["UnicodeError"]
        | .padding => ["Error"]) ++ ["ValueError", "Exception"]
  | .database kind =>
      (match kind with
        | .general => []
        | .interface => ["InterfaceError"]
        | .database => ["DatabaseError"]
        | .data => ["DataError", "DatabaseError"]
        | .operational => ["OperationalError", "DatabaseError"]
        | .integrity => ["IntegrityError", "DatabaseError"]
        | .internal => ["InternalError", "DatabaseError"]
        | .programming => ["ProgrammingError", "DatabaseError"]
        | .notSupported => ["NotSupportedError", "DatabaseError"]) ++ ["Error", "Exception"]
  | .databaseWarning => ["Warning", "Exception"]
  | .document => ["YAMLError", "Exception"]
  | .request => ["InvalidURL", "HTTPException", "Exception"]
  | .runtime => ["RuntimeError", "Exception"]
  | .type => ["TypeError", "Exception"]
  | .endOfInput => ["EOFError", "Exception"]
  | .missingModule => ["ModuleNotFoundError", "ImportError", "Exception"]
  | .markup => ["MarkupError", "ConsoleError", "Exception"]
  | .key => ["KeyError", "LookupError", "Exception"]
  | .index => ["IndexError", "LookupError", "Exception"]
  | .attribute => ["AttributeError", "Exception"]
  | .overflow => ["OverflowError", "ArithmeticError", "Exception"]
  | .division => ["ZeroDivisionError", "ArithmeticError", "Exception"]
  | .interrupt => ["KeyboardInterrupt"]
  | .exit => ["SystemExit"]

/-- The name of a kind in reports. -/
def name (kind : FaultKind) : String :=
  kind.names.headD ""

/-- The fault is a failure of the client, which is reported to its user. -/
def isClient : FaultKind → Bool
  | .client _ => true
  | _ => false

/-- The fault is a failure of the operating system. -/
def isSystem : FaultKind → Bool
  | .system _ => true
  | _ => false

/-- The fault is a failure of the database. -/
def isDatabase : FaultKind → Bool
  | .database _ => true
  | _ => false

/-- The fault may come from the network: it is no failure of the client or of a document, and no
request to stop.
-/
def isOfNetwork : FaultKind → Bool
  | .client _ | .document | .interrupt | .exit => false
  | _ => true

/-- The fault is a failure and not a request to stop. -/
def isOrdinary : FaultKind → Bool
  | .interrupt => false
  | .exit => false
  | _ => true

end FaultKind

/-- What is told about one fault: its kind, its wording and a hint on what to do. -/
structure Report where
  kind : FaultKind
  message : String
  hint : Option String := none
  deriving DecidableEq, Repr

/-- A fault: its own report, and the reports of the faults that caused it one after another,
the nearest first.
-/
structure Fault extends Report where
  causes : List Report := []
  deriving DecidableEq, Repr

namespace Fault

/-- The fault raised because of another one. -/
def because (fault cause : Fault) : Fault :=
  { fault with causes := cause.toReport :: cause.causes }

/-- A failure of the client. -/
def client (kind : ClientKind) (message : String) (hint : Option String := none) : Fault :=
  { kind := .client kind, message, hint }

/-- The wording of a defect's report. -/
def unexpectedMessage : String :=
  "Unexpected exception. This is a bug. Please consider filing an issue."

/-- The failure that wraps a defect. -/
def unexpected : Fault :=
  client .unexpected unexpectedMessage

end Fault

/-- The line that names a fault as the cause of another one. Faults in documents have no
wording of their own.
-/
def Report.causeLine (report : Report) : String :=
  "Caused by: " ++ report.kind.name
    ++ (if report.kind = .document then "" else ": " ++ report.message)

end SqlShell
