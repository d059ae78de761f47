import SqlShell.Text.CellRanges
import SqlShell.Text.Printable

/-!
How many cells of a terminal a text takes. A character may be drawn upon the one before it, be
joined to it, or ask for it to be shown as a picture; what is shown in one place is a cluster.
-/

namespace SqlShell.Text

/-- The number of cells of a character on its own. -/
def charCells (c : Char) : Nat :=
  let n := c.toNat
  if n < 0x20 || (0x7F ≤ n && n < 0xA0) then 0
  else if n < 0x300 then 1
  else if inRanges zeroRanges n then 0
  else if inRanges wideRanges n then 2
  else 1

/-- The character that joins the next one to the one before. -/
def joiner : Char := '\u200D'

/-- The character that asks for a picture in place of the character before it. -/
def pictureMark : Char := '\uFE0F'

/-- The cells that a picture takes beyond those of the character it stands for. -/
def pictureCells (shown : Option Char) : Nat :=
  if shown.any fun c => inRanges pictureRanges c.toNat then 1 else 0

/-- The number of cells of a text. A character after a joiner takes none of its own. -/
def cells (text : List Char) : Nat :=
  go none false text
where
  go (shown : Option Char) (joined : Bool) : List Char → Nat
    | [] => 0
    | c :: rest =>
        if joined then go shown false rest
        else if c = joiner then go shown true rest
        else if c = pictureMark then pictureCells shown + go none false rest
        else
          let size := charCells c
          size + go (if size = 0 then shown else some c) false rest

/-- The characters that are shown in one place, and the number of cells that they take. -/
structure Cluster where
  text : List Char
  cells : Nat
  deriving DecidableEq, Repr

/-- The cluster with a character added at its end. -/
def Cluster.push (cluster : Cluster) (c : Char) (more : Nat) : Cluster :=
  { text := cluster.text ++ [c], cells := cluster.cells + more }

/-- The clusters of a text. A character without cells of its own belongs to the cluster before
it, and at the start of a text it stands alone.
-/
def clusters : List Char → List Cluster
  | [] => []
  | c :: rest =>
      let size := charCells c
      let shown := if size = 0 then none else some c
      go { text := [c], cells := size } shown false rest
where
  go (cluster : Cluster) (shown : Option Char) (joined : Bool) : List Char → List Cluster
    | [] => [cluster]
    | c :: rest =>
        let size := charCells c
        if joined then go (cluster.push c 0) shown false rest
        else if c = joiner then go (cluster.push c 0) shown true rest
        else if c = pictureMark then go (cluster.push c (pictureCells shown)) none false rest
        else if size = 0 then go (cluster.push c 0) shown false rest
        else cluster :: go { text := [c], cells := size } (some c) false rest

/-- Every character of a text is in one of its clusters, and in its place. -/
theorem flatten_clusters (text : List Char)
    : ((clusters text).map Cluster.text).flatten = text := by
  suffices h : ∀ cluster shown joined rest,
      ((clusters.go cluster shown joined rest).map Cluster.text).flatten = cluster.text ++ rest by
    cases text with
    | nil => rfl
    | cons c rest => simp [clusters, h]
  intro cluster shown joined rest
  fun_induction clusters.go cluster shown joined rest <;> simp_all [Cluster.push]

example : cells "aé日本語".toList = 8 := by decide +kernel
example : (clusters "e\u0301日".toList).map Cluster.cells = [1, 2] := by decide +kernel

end SqlShell.Text
