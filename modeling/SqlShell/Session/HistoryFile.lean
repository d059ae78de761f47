import SqlShell.Job.Act
import SqlShell.Options.Basic

/-!
Where the history of commands is kept: in the file that the options name, or in the home directory
of the user.
-/

namespace SqlShell.HistoryFile

open Act

/-- The name of the history file in the home directory; only on Windows it is visible. -/
def fileName (windows : Bool) : String :=
  if windows then "flink-sql-history" else ".flink-sql-history"

/-- The name of a platform is one of Windows. -/
def isWindows (platform : String) : Bool :=
  "windows".toList.isPrefixOf (platform.toList.map Char.toLower)

/-- The home directory that the value of its variable names; without it, or if it names only the
root, the home directory is the root.
-/
def homeText (value : Option String) : String :=
  let text := ((value.getD "").toList.reverse.dropWhile (· == '/')).reverse
  if text.isEmpty then "/" else String.ofList text

/-- The home directory of the user. -/
def homeDirectory (job : Job) : Except Fault Path :=
  let text := homeText (job.valueOf? "HOME")
  if text.toList.head? == some '~' then
    .error { kind := .runtime, message := "Could not determine home directory." }
  else
    .ok (.ofString text)

/-- The path of the history file: the one that is given, or the one in the home directory. The
home directory and the kind of platform are found out if they are not given.
-/
def path (given : Option Setting) (home : Option Path := none) (windows : Option Bool := none)
    : Act Path := do
  match given with
  | some setting => ofResult setting.path
  | none => do
      let job ← state
      let home ← match home with
        | some home => pure home
        | none => ofResult (homeDirectory job)
      return home.child (fileName (windows.getD (isWindows job.platform)))

end SqlShell.HistoryFile
