import SqlShell.Fault
import SqlShell.Files.Path
import SqlShell.Value.Entries

/-!
What a command line selects: the options of a session and its mode, and which of them exclude
each other.
-/

namespace SqlShell

/-- The short and the long spelling of an option. -/
structure Spelling where
  short : String
  long : String
  deriving DecidableEq, Repr

/-- Two options that were given together but exclude each other; the user should keep the
preferred one, and the deprecated one is on its way out.
-/
structure OptionConflict where
  first : Spelling
  second : Spelling
  preferred : Spelling
  deprecated : Spelling
  deriving DecidableEq, Repr

namespace OptionConflict

/-- The wording of a conflict. -/
def message (conflict : OptionConflict) : String :=
  "Please use either option " ++ conflict.first.long ++ " or " ++ conflict.second.long ++ "."

/-- The hint to a conflict. -/
def hint (conflict : OptionConflict) : String :=
  "The option " ++ conflict.deprecated.short ++ " is deprecated and it's suggested to use "
    ++ conflict.preferred.short ++ " instead."

/-- The failure that reports a conflict. -/
def fault (conflict : OptionConflict) : Fault :=
  .client .conflictingOptions conflict.message (some conflict.hint)

end OptionConflict

/-- The spelling of the option that names a script. -/
def fileSpelling : Spelling :=
  ⟨"-f", "--file"⟩

/-- The spelling of the option that gives a single update. -/
def updateSpelling : Spelling :=
  ⟨"-u", "--update"⟩

/-- The name of the mode that runs sessions in this job. -/
def embeddedMode : String :=
  "embedded"

/-- The name of the mode that is reserved. -/
def gatewayMode : String :=
  "gateway"

/-- The identifier of a session without a name. -/
def defaultSession : String :=
  "default"

/-- What an option is set to: a text, or an empty list in the place of one. -/
inductive Setting where
  | text (s : String)
  | nothing
  deriving DecidableEq, Repr

namespace Setting

/-- The text of a setting in notices. -/
def shown : Setting → String
  | .text s => s
  | .nothing => "[]"

/-- The setting as a value of a configuration. -/
def value : Setting → Value
  | .text s => .text s
  | .nothing => .list []

/-- The text to look something up by; an empty list cannot be looked up. -/
def key : Setting → Except Fault String
  | .text s => .ok s
  | .nothing => .error { kind := .type, message := "unhashable type: 'list'" }

/-- The path that a setting names; an empty list names none. -/
def path : Setting → Except Fault Path
  | .text s => .ok (.ofString s)
  | .nothing => .error
      { kind := .type, message := "expected str, bytes or os.PathLike object, not list" }

/-- The text that statements stand in; an empty list has no lines. -/
def script : Setting → Except Fault String
  | .text s => .ok s
  | .nothing => .error
      { kind := .attribute, message := "'list' object has no attribute 'splitlines'" }

end Setting

/-- The options of one run. An option that was not given is absent. -/
structure Options where
  mode : String := embeddedMode
  help : Bool := false
  session : Option Setting := none
  environment : Option Setting := none
  defaults : Option Setting := none
  jars : Option (List Setting) := none
  libraries : Option (List Setting) := none
  worker : Entries := []
  history : Option Setting := none
  script : Option Setting := none
  update : Option Setting := none
  deriving Repr, Inhabited

/-- The conflicts of the options: a script and a single update exclude each other. -/
def Options.conflicts (options : Options) : List OptionConflict :=
  if options.script.isSome && options.update.isSome then
    [⟨fileSpelling, updateSpelling, fileSpelling, updateSpelling⟩]
  else
    []

end SqlShell
