import SqlShell.Options.Basic

/-!
The flags of the command line, with their spellings, the names of their values and their help.
-/

namespace SqlShell

/-- The flags that may follow the mode. The last four configure the worker that runs the
user's own functions.
-/
inductive Flag where
  | help
  | session
  | environment
  | defaults
  | jar
  | library
  | history
  | update
  | file
  | workerFiles
  | workerExecutable
  | workerRequirements
  | workerArchives
  deriving DecidableEq, Repr

namespace Flag

/-- All flags in the order in which they are listed. -/
def all : List Flag := [
  .help, .session, .environment, .defaults, .jar, .library, .history, .update, .file,
  .workerFiles, .workerExecutable, .workerRequirements, .workerArchives
]

/-- The spellings of a flag. -/
def spelling : Flag → Spelling
  | .help => ⟨"-h", "--help"⟩
  | .session => ⟨"-s", "--session"⟩
  | .environment => ⟨"-e", "--environment"⟩
  | .defaults => ⟨"-d", "--defaults"⟩
  | .jar => ⟨"-j", "--jar"⟩
  | .library => ⟨"-l", "--library"⟩
  | .history => ⟨"-hist", "--history"⟩
  | .update => updateSpelling
  | .file => fileSpelling
  | .workerFiles => ⟨"-pyfs", "--pyFiles"⟩
  | .workerExecutable => ⟨"-pyexec", "--pyExecutable"⟩
  | .workerRequirements => ⟨"-pyreq", "--pyRequirements"⟩
  | .workerArchives => ⟨"-pyarch", "--pyArchives"⟩

/-- The name of the value of a flag; a flag without one takes no value. -/
def valueName? : Flag → Option String
  | .help => none
  | .session => some "<session identifier>"
  | .environment => some "<environment file>"
  | .defaults => some "<environment file>"
  | .jar => some "<JAR file>"
  | .library => some "<JAR directory>"
  | .history => some "<History file path>"
  | .update => some "<SQL update statement>"
  | .file => some "<script file>"
  | .workerFiles => some "<pythonFiles>"
  | .workerExecutable => some "<pythonInterpreter>"
  | .workerRequirements => some "<requirementsFile>"
  | .workerArchives => some "<archiveFile>"

/-- The description of a flag. -/
def description : Flag → String
  | .help => "Show the help message with descriptions of all options."
  | .session => "The identifier for a session. 'default' is the default identifier."
  | .environment => "The environment properties to be imported into the session. "
      ++ "It might overwrite default environment properties."
  | .defaults => "The environment properties with which every new session is initialized. "
      ++ "Properties might be overwritten by session properties."
  | .jar => "A JAR file to be imported into the session. Repeat the option for more files."
  | .library => "A directory with JAR files to be imported into the session. "
      ++ "Repeat the option for more directories."
  | .history => "The file which you want to save the command history into. If not specified, "
      ++ "we will auto-generate one under your user's home directory."
  | .update => "Deprecated. Experimental: SQL update statement that is executed immediately "
      ++ "after the session has been started. Use " ++ fileSpelling.long ++ " instead."
  | .file => "Script file that should be executed. In this mode, the client will not "
      ++ "open an interactive terminal."
  | .workerFiles => "Attach custom files for the Python UDF worker, comma separated."
  | .workerExecutable =>
      "Path of the Python interpreter used to execute the Python UDF worker."
  | .workerRequirements =>
      "A requirements.txt file that defines the third-party dependencies, "
        ++ "optionally followed by '#' and a directory of cached packages."
  | .workerArchives => "Archive files for the Python UDF worker, comma separated."

/-- The key of the session's configuration that a flag of the worker sets. -/
def configurationKey? : Flag → Option String
  | .workerFiles => some "python.files"
  | .workerExecutable => some "python.executable"
  | .workerRequirements => some "python.requirements"
  | .workerArchives => some "python.archives"
  | _ => none

/-- The flag takes a value. -/
def takesValue (flag : Flag) : Bool :=
  flag.valueName?.isSome

/-- The name of a flag in messages. -/
def title (flag : Flag) : String :=
  flag.spelling.short ++ "/" ++ flag.spelling.long

/-- The spellings of all flags, each with its flag, in the order in which they are listed. -/
def spellings : List (String × Flag) :=
  all.flatMap fun flag => [(flag.spelling.short, flag), (flag.spelling.long, flag)]

/-- The flag with a spelling. -/
def ofSpelling? (text : String) : Option Flag :=
  (spellings.find? (·.1 == text)).map (·.2)

end Flag

end SqlShell
