import SqlShell.Text.Pieces

/-!
Paths in normal form: repeated separators, components that stand for the same directory and a
separator at the end are gone, while components that lead upwards stay.
-/

namespace SqlShell

/-- Where a path starts: at the current directory, at the root, or at the other root that two
separators name.
-/
inductive Anchor where
  | current
  | root
  | doubleRoot
  deriving DecidableEq, Repr

/-- A path: its start and its components. -/
structure Path where
  anchor : Anchor
  parts : List String
  deriving DecidableEq, Repr

namespace Path

/-- Where the path of a text starts: exactly two separators name the other root. -/
def anchorOf : List Char → Anchor
  | '/' :: '/' :: '/' :: _ => .root
  | '/' :: '/' :: _ => .doubleRoot
  | '/' :: _ => .root
  | _ => .current

/-- The path that a text names. -/
def ofText (text : List Char) : Path :=
  let pieces := (Text.pieces '/' text).filter fun piece => !piece.isEmpty && piece != ['.']
  ⟨anchorOf text, pieces.map String.ofList⟩

/-- The path that a string names. -/
def ofString (text : String) : Path :=
  ofText text.toList

/-- The text before the components. -/
def anchorText : Anchor → String
  | .current => ""
  | .root => "/"
  | .doubleRoot => "//"

/-- The text of a path; the current directory is a single point. -/
def text (path : Path) : String :=
  let body := anchorText path.anchor ++ "/".intercalate path.parts
  if body.isEmpty then "." else body

/-- The path with one more component. -/
def child (path : Path) (name : String) : Path :=
  { path with parts := path.parts ++ [name] }

/-- The path without its last component; a start is its own parent. -/
def parent (path : Path) : Path :=
  { path with parts := path.parts.dropLast }

/-- The path has no component. -/
def isStart (path : Path) : Bool :=
  path.parts.isEmpty

/-- The ending of a name from its last point on; a point at either end of the name makes
none.
-/
def suffix (name : String) : String :=
  let reversed := name.toList.reverse
  let ending := reversed.takeWhile (· != '.')
  let stem := reversed.drop (ending.length + 1)
  if ending.isEmpty || stem.isEmpty then "" else String.ofList ('.' :: ending.reverse)

example : (ofText "a//./b/".toList).text = "a/b" := by cbv

end Path

end SqlShell
