import SqlShell.Environment.Basic
import SqlShell.Files.Locator
import SqlShell.Yaml.Load

/-!
Environment files and the flat configuration file: documents whose root is a mapping. Failures to
read them are reported as failures of the client.
-/

namespace SqlShell

namespace FaultKind

/-- The fault means that a file cannot be read: the system refuses it, or it is no text. -/
def isUnreadable : FaultKind → Bool
  | .system _ => true
  | .value .encoding => true
  | _ => false

/-- The fault means that a document cannot be read: it is unreadable or malformed. -/
def isUnreadableDocument (kind : FaultKind) : Bool :=
  kind.isUnreadable || kind = .document

end FaultKind

namespace Environment

/-- The name of the entry that holds the configuration. -/
def configurationKey : Value :=
  .text "configuration"

/-- The wording of an environment file that cannot be read. -/
def unreadableMessage (locator : String) : String :=
  "Could not read session environment file at: " ++ locator

/-- The failure of an environment file. -/
def unreadable (locator : String) (hint : Option String := none) : Fault :=
  .client .environmentRead (unreadableMessage locator) hint

/-- The document of a text, which is a mapping or has no content. -/
def documentOf (text : List Char) (locator : String) : Except Fault Yaml.Document := do
  let document ← (Yaml.Document.ofText text).mapError Yaml.Problem.fault
  match document.part document.root with
  | .plain .null => return document
  | .map _ => return document
  | _ => .error (unreadable locator "The file must contain a YAML mapping at the top level.")

/-- The entries of a document; one without content has none. -/
def entriesOf (document : Yaml.Document) : Entries :=
  (document.entries? document.root).getD []

/-- The result, with a failure to read a document reported as the given failure. -/
def reportingAs {α : Type} (failure : Fault) (result : Except Fault α) : Except Fault α :=
  result.mapError fun fault =>
    if fault.kind.isUnreadableDocument then failure.because fault else fault

/-- The environment of the document of a file: one of its entries is the configuration, which may
be left out or empty, and the others are sections.
-/
def ofDocument (document : Yaml.Document) (locator : String) : Except Fault Environment :=
  let (found, rest) := document.take configurationKey
  let sections := entriesOf rest
  match found with
  | none => .ok ⟨[], sections⟩
  | some number =>
      match rest.entries? number with
      | some configuration => .ok ⟨configuration, sections⟩
      | none =>
          if (rest.value number).isEmpty then .ok ⟨[], sections⟩
          else .error
            (unreadable locator "'configuration' must be a mapping of keys to values.")

/-- The environment of the file behind a locator. -/
def read (sources : Sources) (locator : String) : Except Fault Environment := do
  let document ← reportingAs (unreadable locator) do
    documentOf (← Locator.read sources locator.toList) locator
  ofDocument document locator

end Environment

/-- The name of the flat configuration file. -/
def configurationFile : String :=
  "flink-conf.yaml"

/-- The name of the environment file with the defaults of every session. -/
def defaultsFile : String :=
  "sql-client-defaults.yaml"

/-- The variable that names the configuration directory. -/
def configurationVariable : String :=
  "FLINK_CONF_DIR"

/-- The configuration directory that the variables name; an empty name counts as none. -/
def configurationDirectory (vars : List (String × String)) : Option Path := do
  let (_, value) ← vars.reverse.find? (·.1 == configurationVariable)
  if value.isEmpty then none else some (.ofString value)

/-- The entries of the flat configuration file of a directory; none if there is no such file. -/
def readConfiguration (tree : FileTree) (directory : Option Path) : Except Fault Entries :=
  match directory with
  | none => .ok []
  | some directory => do
      let file := directory.child configurationFile
      if ← (tree.isFile file).mapError FileProblem.fault then
        Environment.reportingAs
          (.client .environmentRead ("Could not read configuration file at: " ++ file.text)) do
          return Environment.entriesOf
            (← Environment.documentOf (← Locator.readPath tree file) file.text)
      else
        return []

end SqlShell
