import SqlShell.Text.CellWidth

/-!
Cutting a text to a number of cells. Cuts fall between clusters, so a text can be cut only where
its clusters take as many cells as are asked for; a text and its clusters may differ in that.
-/

namespace SqlShell.Text

/-- Why a text wider than some cells cannot be cut to them: its clusters take no cell at all, or too
few of them.
-/
inductive CutProblem where
  | noCells
  | fewCells
  deriving DecidableEq, Repr

/-- The wording of a problem. -/
def CutProblem.message : CutProblem → String
  | .noCells => "division by zero"
  | .fewCells => "list index out of range"

/-- The first clusters that fill so many cells; a part of a wide one is a space. -/
def fillCells : Nat → List Cluster → List Char
  | _, [] => []
  | width, cluster :: rest =>
      if cluster.cells ≤ width then cluster.text ++ fillCells (width - cluster.cells) rest
      else if width = 0 then []
      else [' ']

/-- The start of a text that fills so many cells; it is empty for no cells, and a text that does
not take more cells is left as it is.
-/
def takeCells (width : Nat) (text : List Char) : Except CutProblem (List Char) :=
  if width = 0 then .ok []
  else if cells text ≤ width then .ok text
  else
    let parts := clusters text
    let total := parts.foldl (fun total cluster => total + cluster.cells) 0
    if total = 0 then .error .noCells
    else if total < width then .error .fewCells
    else .ok (fillCells width parts)

/-- A word cut into pieces that fit into a width. The first piece is empty if not even the first
cluster fits, and a word whose clusters take no cell has no pieces.
-/
def chop (width : Nat) (word : List Char) : List (List Char) :=
  go [] 0 (clusters word)
where
  go (piece : List Char) (used : Nat) : List Cluster → List (List Char)
    | [] => if used = 0 then [] else [piece]
    | cluster :: rest =>
        if width < used + cluster.cells then
          piece :: go cluster.text cluster.cells rest
        else
          go (piece ++ cluster.text) (used + cluster.cells) rest

/-- A text that fits is not cut. -/
theorem takeCells_of_le {width : Nat} {text : List Char} (hw : width ≠ 0)
    (h : cells text ≤ width)
    : takeCells width text = .ok text := by
  simp [takeCells, hw, h]

example : (takeCells 3 "a日本".toList).toOption = some "a日".toList := by decide +kernel
example : (takeCells 1 "\u200D\u200D日".toList).isOk = false := by decide +kernel
example : chop 3 "ab日c".toList = ["ab".toList, "日c".toList] := by decide +kernel

end SqlShell.Text
