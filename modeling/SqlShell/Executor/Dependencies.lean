import SqlShell.Files.Locator
import SqlShell.Options.Basic

/-!
The dependencies of an executor: files that are named one by one, and the archives that library
directories hold.
-/

namespace SqlShell

/-- The ending of the names of archives. -/
def archiveSuffix : String :=
  ".jar"

/-- The failure of a dependency that cannot be loaded. -/
def dependencyFailure (hint : String) : Fault :=
  .client .execution "Could not load all required JAR files." (some hint)

/-- The local path behind a locator, and whether it passes a test of the tree of files. -/
def testedPath (test : Path → Except FileProblem Bool) (locator : Setting)
    : Except Fault (Option Path) := do
  let text ← locator.key
  match ((← (Locator.ofText text.toList).mapError Url.Problem.fault)).path? with
  | none => return none
  | some path =>
      if ← (test path).mapError FileProblem.fault then return some path else return none

/-- The path with all steps upwards taken. -/
def FileTree.resolve (tree : FileTree) (path : Path) : Path :=
  match tree.walk path with
  | .ok place => place.path
  | .error _ => path

/-- The file that a dependency names. -/
def namedDependency (tree : FileTree) (locator : Setting) : Except Fault Path := do
  match ← testedPath tree.isFile locator with
  | some path => return tree.resolve path
  | none => .error (dependencyFailure ("'" ++ locator.shown ++ "' is not a readable local file."))

/-- The archives in a library directory, in the order of their names. -/
def libraryArchives (tree : FileTree) (locator : Setting) : Except Fault (List Path) := do
  match ← testedPath tree.isDirectory locator with
  | none =>
      .error (dependencyFailure ("Library directory '" ++ locator.shown ++ "' does not exist."))
  | some path =>
      let directory ← (tree.list path).mapError FileProblem.fault
      let names := (tree.fileNames directory).filter (Path.suffix · == archiveSuffix)
      return (names.mergeSort (fun a b => !decide (b < a))).map directory.path.child

/-- All dependencies: the named files, and the archives of the library directories. -/
def findDependencies (tree : FileTree) (jars libraries : List Setting)
    : Except Fault (List Path) := do
  let named ← jars.mapM (namedDependency tree)
  let archives ← libraries.mapM (libraryArchives tree)
  return named ++ archives.flatten

end SqlShell
