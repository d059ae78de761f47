import SqlShell.Display.Markup
import SqlShell.Display.Wrap

/-!
Lines as a terminal shows them: segments beside each other, each of which is measured on its own.
What is written of a line is cut at the terminal's width.
-/

namespace SqlShell.Display

open SqlShell.Text

/-- Why a text cannot be shown. -/
inductive Problem where
  | markup (problem : Markup.Problem)
  | style (problem : Style.Problem)
  | cut (problem : CutProblem)
  deriving DecidableEq, Repr

/-- The fault of a text that cannot be cut. -/
def cutFault (problem : CutProblem) : Fault :=
  { kind := match problem with
      | .noCells => .division
      | .fewCells => .index,
    message := problem.message }

/-- The fault of a text that cannot be shown. -/
def Problem.fault : Problem → Fault
  | .markup problem => problem.fault
  | .style problem => (Markup.Problem.style problem).fault
  | .cut problem => cutFault problem

/-- The segments of a line. -/
abbrev Line := List (List Char)

namespace Line

/-- The number of cells that the segments of a line take. -/
def size (line : Line) : Nat :=
  line.foldl (fun total segment => total + cells segment) 0

/-- The start of a line that fills so many cells. -/
def take (width : Nat) : Line → Except CutProblem Line
  | [] => .ok []
  | segment :: rest =>
      let size := cells segment
      if size < width then (take (width - size) rest).map (segment :: ·)
      else (takeCells width segment).map ([·])

/-- The line if it takes at most so many cells, and otherwise its start that fills them. -/
def fit (width : Nat) (line : Line) : Except CutProblem Line :=
  if line.size ≤ width then .ok line else line.take width

/-- The line filled with spaces, or cut, so that it takes just so many cells. -/
def shape (width : Nat) (line : Line) : Except CutProblem Line :=
  if line.size < width then .ok (line ++ [List.replicate (width - line.size) ' '])
  else line.fit width

/-- The lines of styled texts. The styles are read only here, once all lines are known. -/
def ofStyled (lines : List Styled) : Except Problem (List Line) :=
  ((lines.forM Styled.readStyles).mapError .style).map fun _ => lines.map Styled.segments

end Line

/-- What is written of lines: the text up to a line that cannot be cut, and why it cannot. -/
structure Written where
  text : List Char := []
  problem : Option CutProblem := none

/-- Writes lines on a terminal of the given width. -/
def writeLines (width : Nat) : List Line → Written
  | [] => {}
  | line :: rest =>
      match line.fit width with
      | .error problem => { problem := some problem }
      | .ok line =>
          let more := writeLines width rest
          { more with text := line.flatten ++ '\n' :: more.text }

/-- The text as a terminal of the width shows it, each line with a line feed. A terminal without
any width shows nothing.
-/
def onTerminal (width : Nat) (text : Styled) : Except Problem Written := do
  if width = 0 then
    return {}
  let lines ← Line.ofStyled (← (foldText width text).mapError .cut)
  return writeLines width lines

end SqlShell.Display
