import SqlShell.Display.Line
import SqlShell.Text.Lines

/-!
Tables in boxes: a heading for each column and rows of cells below, all in markup. A table that
is wider than the terminal has its widest columns shrunk until it fits.
-/

namespace SqlShell.Display

open SqlShell.Text

/-- The blanks beside the content of a cell. -/
def cellPadding : Nat := 2

/-- The width that a text takes in a cell if no more than the given width is at hand. -/
def cellWidth (most : Nat) (text : List Char) : Nat :=
  if most ≤ cellPadding then
    most
  else
    let widest := ((splitLines text).map cells).foldl max 0
    min most (min most widest + cellPadding)

/-- The width that a column takes if no more than the given width is at hand. -/
def columnWidth (most : Nat) (texts : List (List Char)) : Nat :=
  (texts.map (cellWidth most)).foldl max 0

/-- The whole number nearest to a ratio; of two equally near ones the even one. -/
def nearest (num den : Nat) : Nat :=
  let quotient := num / den
  let remainder := num % den
  if den < 2 * remainder || (2 * remainder == den && quotient % 2 == 1) then quotient + 1
  else quotient

/-- The cells that parts beside each other take. -/
def totalWidth (sizes : List Nat) : Nat :=
  sizes.foldl (· + ·) 0

/-- The widths with a total taken off, in equal shares from the columns that are marked and may
still lose something: each share is one of what is left, and no column loses more than its limit.
-/
def takeShares : Nat → List (Nat × Nat × Bool) → List Nat
  | _, [] => []
  | total, (width, limit, marked) :: rest =>
      let isOpen := marked && 0 < limit
      let shares := (rest.filter fun (_, limit, marked) => marked && 0 < limit).length + 1
      if isOpen then
        let share := min limit (nearest total shares)
        (width - share) :: takeShares (total - share) rest
      else
        width :: takeShares total rest

/-- The widths shrunk until their sum is at most the given one: the widest columns are brought
down to the next width below theirs, again and again.
-/
def shrinkWidest (most : Nat) : Nat → List Nat → List Nat
  | 0, widths => widths
  | fuel + 1, widths =>
      let total := totalWidth widths
      if total ≤ most then
        widths
      else
        let widest := widths.foldl max 0
        let second := (widths.filter (· != widest)).foldl max 0
        let limit := min (total - most) (widest - second)
        if limit = 0 then widths
        else
          shrinkWidest most fuel
            (takeShares (total - most) (widths.map fun width => (width, limit, width == widest)))

/-- The widths of columns with the given texts on a line of the given width. -/
def columnWidths (most : Nat) (columns : List (List (List Char))) : List Nat :=
  let widths := columns.map fun texts => max 1 (columnWidth most texts)
  if totalWidth widths ≤ most then
    widths
  else
    let widths := shrinkWidest most (totalWidth widths) widths
    let excess := totalWidth widths - most
    let widths :=
      if excess = 0 then widths
      else takeShares excess (widths.map fun width => (width, width, true))
    (widths.zip columns).map fun (width, texts) => columnWidth width texts

/-- The lines of a cell of the given width; one without room for content has none. -/
def cellLines (width : Nat) (text : Styled) : Except Problem (List Line) := do
  if width ≤ cellPadding then
    return []
  let inner := width - cellPadding
  let lines ← Line.ofStyled (← (fillText inner text).mapError .cut)
  let lines ← (lines.mapM (Line.shape inner)).mapError .cut
  (lines.mapM fun line => Line.shape width ([' '] :: line ++ [[' ']])).mapError .cut

/-- A horizontal line of a box. -/
def rule (left fill joint right : Char) (widths : List Nat) : Line :=
  let parts := widths.map fun width => List.replicate width fill
  [left :: (List.intersperse [joint] parts).flatten ++ [right]]

/-- Where the content of a cell stands in a row that is higher than it. -/
inductive Stand where
  | top
  | bottom

/-- The lines of a cell of the given width, made as many as the given height with blank lines. -/
def Stand.fill (stand : Stand) (width height : Nat) (lines : List Line) : List Line :=
  let blanks := List.replicate (height - lines.length) [List.replicate width ' ']
  match stand with
  | .top => lines ++ blanks
  | .bottom => blanks ++ lines

/-- The lines of a row between vertical lines. -/
def rowLines (stand : Stand) (bar : Char) (widths : List Nat) (texts : List Styled) :
    Except Problem (List Line) := do
  let blocks ← (widths.zip texts).mapM fun (width, text) => do
    return (width, ← cellLines width text)
  let height := (blocks.map fun (_, lines) => lines.length).foldl max 1
  let blocks := blocks.map fun (width, lines) => (width, stand.fill width height lines)
  return (List.range height).map fun i =>
    let parts := blocks.map fun (width, lines) => (lines[i]?).getD [List.replicate width ' ']
    [bar] :: (List.intersperse [[bar]] parts).flatten ++ [[bar]]

/-- The columns of a table: for each its heading and below it its cells. A row with more cells
than there are headings makes columns without heading, and cells that are lacking are empty.
-/
def tableColumns (headings : List String) (rows : List (List String)) : List (List String) :=
  let lines := headings :: rows
  let count := lines.foldl (fun most texts => max most texts.length) 0
  (List.range count).map fun i => lines.map fun texts => (texts[i]?).getD ""

/-- The texts in the cells of columns. Their markup is read column by column, and not at all if
no column has room for content.
-/
def readCells (most : Nat) (columns : List (List String))
    : Except Markup.Problem (List (List Styled)) :=
  if most ≤ cellPadding then
    .ok (columns.map fun texts => texts.map fun _ => {})
  else
    columns.mapM fun texts => texts.mapM fun text => Markup.render text.toList

/-- The lines of a table with columns of the given widths. Headings stand at the bottom of their
row, and cells at the top of theirs.
-/
def tableLines (widths : List Nat) (columns : List (List Styled))
    : Except Problem (List Line) := do
  let row (i : Nat) : List Styled := columns.map fun texts => (texts[i]?).getD {}
  let count := (columns.map List.length).foldl max 0
  let head ← rowLines .bottom '┃' widths (row 0)
  let below ← (List.range (count - 1)).mapM fun i => rowLines .top '│' widths (row (i + 1))
  return [rule '┏' '━' '┳' '┓' widths] ++ head
    ++ [rule '┡' '━' '╇' '┩' widths] ++ below.flatten ++ [rule '└' '─' '┴' '┘' widths]

/-- A table as a terminal of the given width shows it. -/
def table (width : Nat) (headings : List String) (rows : List (List String))
    : Except Problem Written := do
  if width = 0 then
    return {}
  let columns := tableColumns headings rows
  let most := width - (columns.length + 1)
  let columns ← (readCells most columns).mapError .markup
  let widths := columnWidths most (columns.map (·.map Styled.text))
  return writeLines width (← tableLines widths columns)

end SqlShell.Display
