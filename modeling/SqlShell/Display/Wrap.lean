import SqlShell.Display.Styled
import SqlShell.Text.Blank
import SqlShell.Text.CellCut

/-!
Breaking text into lines of a terminal's width, which is counted in cells. Lines break between
words; a word that fits on no line is cut, or stands on a line of its own.
-/

namespace SqlShell.Display

open SqlShell.Text

/-- The number of places between the stops of a tabulator. -/
def tabStop : Nat := 8

/-- The text with spaces for its tabulators. Each one is a space, with more up to the next stop;
the cells are counted from one tabulator to the next.
-/
def expandTabs (line : Styled) : Styled :=
  if line.text.contains '\t' then Styled.concat (go 0 0 (pieces '\t' line.text)) else line
where
  go (place cell : Nat) : List (List Char) → List Styled
    | [] => []
    | [last] => [line.part place last]
    | piece :: rest =>
        let spaced := piece ++ [' ']
        let reached := cell + cells spaced
        let stop := (reached + tabStop - 1) / tabStop * tabStop
        (line.part place spaced).extend (stop - reached) :: go (place + spaced.length) stop rest

/-- The words of a line, each with the blanks after it, and the first one with those before. -/
def lineWords (text : List Char) : List (List Char) :=
  go text [] false
where
  go : List Char → List Char → Bool → List (List Char)
    | [], word, seen => if seen then [word.reverse] else []
    | c :: rest, word, seen =>
        if isBlank c then
          go rest (c :: word) seen
        else if seen && word.head?.any isBlank then
          word.reverse :: go rest [c] true
        else
          go rest (c :: word) true

/-- Lines under way: the places at which lines break, the latest first, the place that is reached,
and the cells that count as taken on the last line.
-/
structure Breaking where
  breaks : List Nat := []
  place : Nat := 0
  used : Nat := 0

/-- Starts a new line, unless nothing has been put on a line yet. -/
def Breaking.newLine (state : Breaking) (word : List Char) : Breaking :=
  { breaks := if state.place = 0 then state.breaks else state.place :: state.breaks,
    place := state.place + word.length,
    used := cells word }

/-- Puts a word on the last line if it fits there without the blanks at its end, and on a new
line otherwise. A word wider than a line is cut if `fold` says so.
-/
def Breaking.add (fold : Bool) (width : Nat) (state : Breaking) (word : List Char) : Breaking :=
  let size := cells (trimEnd word)
  let place := state.place + word.length
  if state.used + size ≤ width then
    { state with place, used := state.used + cells word }
  else if width < size then
    let parts := if fold then chop width word else [word]
    { parts.foldl Breaking.newLine state with place }
  else if state.used = 0 then
    { state with place }
  else
    state.newLine word

/-- The places at which a line breaks in a width. -/
def lineBreaks (fold : Bool) (width : Nat) (text : List Char) : List Nat :=
  ((lineWords text).foldl (Breaking.add fold width) {}).breaks.reverse

/-- The line without the blanks at its end that lie beyond the width. -/
def trimBeyond (width : Nat) (line : Styled) : Styled :=
  let size := line.text.length
  let blanks := size - (trimEnd line.text).length
  line.withText (line.text.take (size - min blanks (size - width)))

/-- A line cut to a width; if `mark` says so the last cell tells that it was cut. -/
def cutLine (mark : Bool) (width : Nat) (line : Styled) : Except CutProblem Styled := do
  if cells line.text ≤ width then
    return line
  else if mark then
    return line.withText ((← takeCells (width - 1) line.text) ++ ['…'])
  else
    return line.withText (← takeCells width line.text)

/-- A line filled with spaces up to a width, or cut to it with a mark. -/
def fillLine (width : Nat) (line : Styled) : Except CutProblem Styled :=
  let size := cells line.text
  if size < width then
    .ok { line with text := line.text ++ List.replicate (width - size) ' ' }
  else
    cutLine true width line

/-- The lines of a text without line feeds in a width. -/
def wrapLine (fold : Bool) (width : Nat) (line : Styled) : List Styled :=
  let line := expandTabs line
  (line.divide (lineBreaks fold width line.text)).map (trimBeyond width)

/-- The lines of a text in a width; words wider than a line are cut. -/
def foldText (width : Nat) (text : Styled) : Except CutProblem (List Styled) :=
  (text.lines.mapM fun line => (wrapLine true width line).mapM (cutLine false width)).map
    List.flatten

/-- The lines of a text in a width, each of which takes all of it; lines that are wider end in a
mark.
-/
def fillText (width : Nat) (text : Styled) : Except CutProblem (List Styled) :=
  (text.lines.mapM fun line => do
    ((← (wrapLine false width line).mapM (fillLine width)).mapM (cutLine true width))).map
    List.flatten

example : ((foldText 4 (.plain "ab cd efghij".toList)).toOption.map (·.map Styled.text))
    = some ["ab ".toList, "cd ".toList, "efgh".toList, "ij".toList] := by decide +kernel

end SqlShell.Display
