import SqlShell.Fault
import SqlShell.Files.Path
import SqlShell.Text.Quoted
import SqlShell.Text.Utf8

/-!
A tree of files and directories around a current directory, and what reading, testing, listing
and creating under a path does to it. Some of them may be closed to the job.
-/

namespace SqlShell

/-- What a name in a directory stands for. A closed file may be neither read nor written, and in a
closed directory nothing can be looked for.
-/
inductive FileEntry where
  | file (bytes : List UInt8)
  | directory
  | closedFile
  | closedDirectory
  deriving DecidableEq, Repr

/-- The entry is a directory, though perhaps a closed one. -/
def FileEntry.isDirectory : FileEntry → Bool
  | .directory | .closedDirectory => true
  | .file _ | .closedFile => false

/-- A place: the names that lead there from the current directory on. They start with a slash if
they lead there from the root, and with two points for each step upwards.
-/
abbrev Place := List String

namespace Place

/-- The place where everything starts. -/
def root : Place :=
  ["/"]

/-- The place is the current directory or lies above it. -/
def isAbove (place : Place) : Bool :=
  place.all (· == "..")

/-- The directory that a place lies in. The root lies in itself. -/
def upper (place : Place) : Place :=
  if place == root then root
  else if place.isAbove then place ++ [".."]
  else place.dropLast

/-- The place where the start of a path lies. -/
def start (path : Path) : Place :=
  if path.anchor = .current then [] else root

/-- The place that a path leads to if every component of it is there. -/
def ofPath (path : Path) : Place :=
  path.parts.foldl (fun place part => if part == ".." then place.upper else place ++ [part])
    (start path)

/-- The path that leads straight to a place. -/
def path : Place → Path
  | "/" :: names => ⟨.root, names⟩
  | names => ⟨.current, names⟩

/-- The place lies in the current directory or below it. -/
def isWithin (place : Place) : Bool :=
  !(["/", ".."].any (place.head? == some ·))

end Place

/-- A tree: entries by their places. Where the current directory lies below the root is not known: an
entry that is to be reached both from there and from the root has both places.
-/
structure FileTree where
  entries : List (Place × FileEntry)
  deriving Repr, Inhabited

/-- Why a path cannot be used as asked. -/
inductive FileFlaw where
  | missing
  | notDirectory
  | isDirectory
  | alreadyExists
  | nameTooLong
  | denied
  | zeroByte
  deriving DecidableEq, Repr

/-- The text of a path that cannot be used as asked. -/
structure FileProblem where
  flaw : FileFlaw
  path : String
  deriving DecidableEq, Repr

/-- The kind of fault of a flaw. -/
def FileFlaw.kind : FileFlaw → FaultKind
  | .missing => .system .notFound
  | .notDirectory => .system .notDirectory
  | .isDirectory => .system .isDirectory
  | .alreadyExists => .system .alreadyExists
  | .nameTooLong => .system .general
  | .denied => .system .denied
  | .zeroByte => .value .general

/-- The wording of a flaw with the number the system gives it. -/
def FileFlaw.message : FileFlaw → String
  | .missing => "[Errno 2] No such file or directory"
  | .notDirectory => "[Errno 20] Not a directory"
  | .isDirectory => "[Errno 21] Is a directory"
  | .alreadyExists => "[Errno 17] File exists"
  | .nameTooLong => "[Errno 36] File name too long"
  | .denied => "[Errno 13] Permission denied"
  | .zeroByte => "embedded null byte"

/-- A test of a path fails with the flaw, and does not only turn out false. -/
def FileFlaw.spoilsTests : FileFlaw → Bool
  | .nameTooLong | .denied => true
  | _ => false

/-- The wording of a file problem; the path follows in quotes unless it holds a zero byte. -/
def FileProblem.message (problem : FileProblem) : String :=
  match problem.flaw with
  | .zeroByte => problem.flaw.message
  | flaw => flaw.message ++ ": " ++ String.ofList (Text.quoted problem.path.toList)

/-- The fault of a file problem. -/
def FileProblem.fault (problem : FileProblem) : Fault :=
  { kind := problem.flaw.kind, message := problem.message }

namespace FileTree

/-- The number of bytes of a text in the file system. -/
def byteLength (text : String) : Nat :=
  (Utf8.encode text.toList).length

/-- The entry at a place. The root, the current directory and those above it are directories if
nothing else is known of them.
-/
def entry? (tree : FileTree) (place : Place) : Option FileEntry :=
  ((tree.entries.find? (·.1 == place)).map (·.2)).or
    (if place == Place.root || place.isAbove then some .directory else none)

/-- Why nothing can be looked for at a place. -/
def barrier? (tree : FileTree) (place : Place) : Option FileFlaw :=
  match tree.entry? place with
  | some .directory => none
  | some .closedDirectory => some .denied
  | _ => some .notDirectory

/-- One step of a walk, from a directory to what a component names there. -/
def step (tree : FileTree) (place : Place) (part : String) : Except FileFlaw Place :=
  match tree.barrier? place with
  | some flaw => .error flaw
  | none =>
      if part == ".." then .ok place.upper
      else if 255 < byteLength part then .error .nameTooLong
      else if (tree.entry? (place ++ [part])).isSome then .ok (place ++ [part])
      else .error .missing

/-- Some component of the path holds a zero byte. -/
def hasZeroByte (path : Path) : Bool :=
  path.parts.any (·.toList.contains (Char.ofNat 0))

/-- A path that no call can take: it holds a zero byte or is too long as a whole. -/
def unusable? (path : Path) : Option FileFlaw :=
  if hasZeroByte path then some .zeroByte
  else if 4095 < byteLength path.text then some .nameTooLong
  else none

/-- The place that a path names. -/
def walk (tree : FileTree) (path : Path) : Except FileFlaw Place :=
  match unusable? path with
  | some flaw => .error flaw
  | none => path.parts.foldlM (tree.step ·) (Place.start path)

/-- The place that a text names just as it is written. A component that is empty or a single point
stays where it is, which has to be a directory.
-/
def walkText (tree : FileTree) (text : String) : Except FileFlaw Place :=
  if text.toList.contains (Char.ofNat 0) then .error .zeroByte
  else if text.isEmpty then .error .missing
  else if 4095 < byteLength text then .error .nameTooLong
  else
    let fromRoot := text.toList.head? == some '/'
    ((Text.pieces '/' text.toList).drop (if fromRoot then 1 else 0)).foldlM
      (fun place part =>
        if part.isEmpty || part == ['.'] then
          match tree.barrier? place with
          | some flaw => .error flaw
          | none => .ok place
        else
          tree.step place (String.ofList part)) (if fromRoot then Place.root else [])

/-- The bytes at a place, which has to be a file. -/
def bytesAt (tree : FileTree) (place : Place) : Except FileFlaw (List UInt8) :=
  match tree.entry? place with
  | some (.file bytes) => .ok bytes
  | some .closedFile | some .closedDirectory => .error .denied
  | _ => .error .isDirectory

/-- The bytes of the file that a path names. -/
def read (tree : FileTree) (path : Path) : Except FileProblem (List UInt8) :=
  (tree.walk path >>= tree.bytesAt).mapError fun flaw => ⟨flaw, path.text⟩

/-- Tests what a path names. A path that names nothing fails the test, and so does one that
holds a zero byte; a name that is too long and a closed directory are faults.
-/
def test (tree : FileTree) (p : FileEntry → Bool) (path : Path) : Except FileProblem Bool :=
  match tree.walk path with
  | .ok place => .ok ((tree.entry? place).any p)
  | .error flaw => if flaw.spoilsTests then .error ⟨flaw, path.text⟩ else .ok false

/-- The path names a file. -/
def isFile (tree : FileTree) (path : Path) : Except FileProblem Bool :=
  tree.test (!·.isDirectory) path

/-- The path names a directory. -/
def isDirectory (tree : FileTree) (path : Path) : Except FileProblem Bool :=
  tree.test (·.isDirectory) path

/-- The directory that a path names, to list what it holds. -/
def list (tree : FileTree) (path : Path) : Except FileProblem Place :=
  (do
    let place ← tree.walk path
    match tree.barrier? place with
    | some flaw => .error flaw
    | none => .ok place).mapError fun flaw => ⟨flaw, path.text⟩

/-- The names of the files in a directory. -/
def fileNames (tree : FileTree) (directory : Place) : List String :=
  tree.entries.filterMap fun (place, entry) =>
    if place.dropLast == directory && !entry.isDirectory then place.getLast? else none

/-- The tree with an entry at a place that has none. -/
def add (tree : FileTree) (place : Place) (entry : FileEntry) : FileTree :=
  ⟨tree.entries ++ [(place, entry)]⟩

/-- The tree with an entry at a place, in place of the one that may be there. -/
def set (tree : FileTree) (place : Place) (entry : FileEntry) : FileTree :=
  if (tree.entries.any (·.1 == place)) then
    ⟨tree.entries.map fun old => if old.1 == place then (place, entry) else old⟩
  else
    tree.add place entry

/-- The tree with an entry and the directories above it. -/
def place (tree : FileTree) (path : Path) (entry : FileEntry) : FileTree :=
  let place := Place.ofPath path
  let directories := (List.range place.length).map place.take
  let tree := directories.foldl
    (fun tree place => if (tree.entry? place).isSome then tree else tree.add place .directory) tree
  if path.parts.isEmpty then tree else tree.set place entry

/-- Creates one directory whose parent is there. -/
def makeDirectory (tree : FileTree) (path : Path) : Except FileFlaw FileTree :=
  match unusable? path with
  | some flaw => .error flaw
  | none =>
      match path.parts.getLast? with
      | none => .error .alreadyExists
      | some name => do
          let place ← path.parent.parts.foldlM (tree.step ·) (Place.start path)
          match tree.step place name with
          | .ok _ => .error .alreadyExists
          | .error .missing => .ok (tree.add (place ++ [name]) .directory)
          | .error flaw => .error flaw

/-- Creates a directory that may be there already, and with as many steps upwards as given the
missing directories above it. What was created before a failure stays.
-/
def makeDirectories : Nat → FileTree → Path → Except FileProblem Unit × FileTree
  | fuel, tree, path =>
      match tree.makeDirectory path with
      | .ok tree => (.ok (), tree)
      | .error .missing =>
          match fuel with
          | 0 => (.error ⟨.missing, path.text⟩, tree)
          | fuel + 1 =>
              if path.isStart then
                (.error ⟨.missing, path.text⟩, tree)
              else
                match makeDirectories fuel tree path.parent with
                | (.error problem, tree) => (.error problem, tree)
                | (.ok (), tree) => makeDirectories 0 tree path
      | .error .zeroByte => (.error ⟨.zeroByte, path.text⟩, tree)
      | .error flaw =>
          match tree.isDirectory path with
          | .ok true => (.ok (), tree)
          | .ok false => (.error ⟨flaw, path.text⟩, tree)
          | .error problem => (.error problem, tree)

/-- Creates a directory and the missing ones above it, unless it is there already. -/
def ensureDirectory (tree : FileTree) (path : Path) : Except FileProblem Unit × FileTree :=
  makeDirectories (path.parts.length + 1) tree path

/-- Creates an empty file unless the path names something already, which may not be closed. -/
def touch (tree : FileTree) (path : Path) : Except FileProblem FileTree :=
  match tree.walk path with
  | .ok place =>
      if tree.entry? place = some .closedFile then .error ⟨.denied, path.text⟩ else .ok tree
  | .error .missing =>
      match path.parts.getLast?,
        path.parent.parts.foldlM (tree.step ·) (Place.start path) with
      | some name, .ok place => .ok (tree.add (place ++ [name]) (.file []))
      | _, _ => .error ⟨.missing, path.text⟩
  | .error flaw => .error ⟨flaw, path.text⟩

/-- The texts of all paths in the current directory. -/
def paths (tree : FileTree) : List String :=
  (tree.entries.filter (·.1.isWithin)).map fun entry => "/".intercalate entry.1

end FileTree

end SqlShell
