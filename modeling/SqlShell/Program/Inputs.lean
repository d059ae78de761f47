import SqlShell.Environment.Files
import SqlShell.Job.State
import SqlShell.Options.CommandLine

/-!
What a run takes from its surroundings: the files that it may read, and whether it asks the user
for lines. Both are known from its arguments and variables before it starts.
-/

namespace SqlShell.Program

/-- The options of a run that opens a session. -/
def sessionOptions? : List String → Option Options
  | mode :: rest =>
      if mode = embeddedMode then
        (CommandLine.parse rest).toOption.filter fun options =>
          !options.help && options.conflicts.isEmpty
      else
        none
  | [] => none

/-- The locators among the options of a run. -/
def locators (options : Options) : List String :=
  (options.script.toList ++ options.environment.toList ++ options.defaults.toList
    ++ options.jars.getD []).filterMap (·.key.toOption)

/-- The files of a configuration directory. -/
def configurationFiles (directory : Path) : List Path :=
  [directory.child configurationFile, directory.child defaultsFile]

/-- The paths of the files that a run may read. -/
def neededPaths (arguments : List String) (vars : List (String × String)) : List Path :=
  match sessionOptions? arguments with
  | none => []
  | some options =>
      let named := (locators options).filterMap fun locator =>
        (Locator.ofText locator.toList).toOption.bind Locator.path?
      named ++ (configurationDirectory vars).toList.flatMap configurationFiles

/-- The tree of the entries that were found. -/
def treeOf (found : List (Path × FileEntry)) : FileTree :=
  found.foldl (fun tree (path, entry) => tree.place path entry) ⟨[]⟩

/-- A run asks the user for lines if it opens the interactive shell. -/
def asksUser (arguments : List String) : Bool :=
  (sessionOptions? arguments).any fun options =>
    options.script.isNone && options.update.isNone

/-- The entries of a tree that one before it does not have, by their paths. -/
def addedEntries (before after : FileTree) : List (Path × FileEntry) :=
  (after.entries.filter fun (place, _) => (before.entry? place).isNone).map fun (place, entry) =>
    (place.path, entry)

end SqlShell.Program
