import SqlShell.Proofs.Display.Layout
import SqlShell.Proofs.Text.CellMeasure

/-! The cells of a table whose texts have no styles. A text that fits into the column is shown line
by line, each one filled with blanks up to the width of the column.
-/

namespace SqlShell

namespace Text

-----------------------------------------------------------------------------------------
-- Blanks after a text
-----------------------------------------------------------------------------------------

/-- A blank after a text takes a cell, unless a joiner takes it up. By induction on the text. -/
theorem cells_append_space (text : List Char)
    : cells (text ++ [' ']) = cells text ∨ cells (text ++ [' ']) = cells text + 1 := by
  suffices hgo : ∀ shown joined, cells.go shown joined (text ++ [' ']) = cells.go shown joined text
      ∨ cells.go shown joined (text ++ [' ']) = cells.go shown joined text + 1 from hgo none false
  induction text with
  | nil =>
      intro shown joined
      cases joined with
      | true => exact Or.inl rfl
      | false => exact Or.inr rfl
  | cons c rest ih =>
      intro shown joined
      rw [List.cons_append, cells.go, cells.go]
      split
      · exact ih ..
      split
      · exact ih ..
      split
      · exact (ih ..).imp (fun he => by rw [he]) (fun he => by rw [he, Nat.add_assoc])
      · dsimp only
        exact (ih ..).imp (fun he => by rw [he]) (fun he => by rw [he, Nat.add_assoc])

theorem cells_spaces (shown : Option Char) (count : Nat)
    : cells.go shown false (List.replicate count ' ') = count := by
  induction count generalizing shown with
  | zero => rfl
  | succ count ih =>
      rw [List.replicate_succ]
      show 1 + cells.go (some ' ') false (List.replicate count ' ') = _
      rw [ih, Nat.add_comm]

/-- Each blank after a first one takes a cell, by induction on the text. -/
theorem cells_append_spaces (text : List Char) (count : Nat)
    : cells (text ++ List.replicate (count + 1) ' ') = cells (text ++ [' ']) + count := by
  suffices hgo : ∀ shown joined,
      cells.go shown joined (text ++ List.replicate (count + 1) ' ') =
        cells.go shown joined (text ++ [' ']) + count from hgo none false
  induction text with
  | nil =>
      intro shown joined
      rw [List.replicate_succ]
      cases joined with
      | true =>
          show cells.go shown false (List.replicate count ' ') = 0 + count
          rw [cells_spaces, Nat.zero_add]
      | false =>
          show 1 + cells.go (some ' ') false (List.replicate count ' ') = 1 + count
          rw [cells_spaces]
  | cons c rest ih =>
      intro shown joined
      rw [List.cons_append, List.cons_append, cells.go, cells.go]
      split
      · exact ih ..
      split
      · exact ih ..
      split
      · rw [ih, Nat.add_assoc]
      · dsimp only
        rw [ih, Nat.add_assoc]

end Text

namespace Display

open Text

-----------------------------------------------------------------------------------------
-- Lines of a cell
-----------------------------------------------------------------------------------------

/-- The line with blanks after it up to a width. A blank that a joiner takes up is made up for. -/
def filled (width : Nat) (line : List Char) : List Char :=
  if cells line < width then
    line ++ List.replicate (width + 1 - cells (line ++ [' '])) ' '
  else
    line

/-- The line fits into a width: it takes no more cells, and does not end in a blank if it has more
characters than there are cells.
-/
structure FitsLine (width : Nat) (line : List Char) : Prop where
  cells_le : cells line ≤ width
  end_within : line.length ≤ width ∨ trimEnd line = line

/-- A line that fits is not broken, and stays as it is if it has no tabulators. -/
theorem wrapLine_of_fits {width : Nat} {line : List Char} (h : FitsLine width line)
    (ht : '\t' ∉ line) (fold : Bool)
    : wrapLine fold width ⟨line, []⟩ = [⟨line, []⟩] := by
  have htabs : expandTabs ⟨line, []⟩ = ⟨line, []⟩ := by
    rw [expandTabs, if_neg]
    exact fun hm => ht (List.contains_iff_mem.mp hm)
  have htrim : trimBeyond width ⟨line, []⟩ = ⟨line, []⟩ := by
    have hnone : min (line.length - (trimEnd line).length) (line.length - width) = 0 := by
      rcases h.end_within with hl | hl
      · omega
      · rw [hl, Nat.sub_self, Nat.zero_min]
    rw [trimBeyond]
    dsimp only
    rw [hnone, Nat.sub_zero, List.take_length, Styled.withText, if_neg (Nat.lt_irrefl _)]
  rw [wrapLine, htabs, lineBreaks_of_fits fold h.cells_le, Styled.divide,
    if_pos List.isEmpty_nil, List.map_singleton, htrim]

/-- The line as it is before the cell is given its width. -/
def spaced (width : Nat) (line : List Char) : List Char :=
  line ++ List.replicate (width - cells line) ' '

theorem cells_spaced_le {width : Nat} {line : List Char} (h : cells line ≤ width)
    : cells (spaced width line) ≤ width := by
  rw [spaced]
  cases hcount : width - cells line with
  | zero => rwa [List.replicate_zero, List.append_nil]
  | succ count =>
      have hspace := cells_append_space line
      rw [cells_append_spaces]
      omega

theorem fillLine_of_fits {width : Nat} {line : List Char} (h : cells line ≤ width)
    : fillLine width ⟨line, []⟩ = .ok ⟨spaced width line, []⟩ := by
  rw [fillLine]
  dsimp only
  split
  · rfl
  · have hfull : width - cells line = 0 := by omega
    rw [cutLine, if_pos h, spaced, hfull, List.replicate_zero, List.append_nil]
    rfl

/-- The lines of a text without styles are its pieces between line feeds. -/
theorem lines_eq_pieces (text : List Char)
    : (⟨text, []⟩ : Styled).lines = (pieces '\n' text).map fun line => ⟨line, []⟩ := by
  have hgo : ∀ lines start, Styled.lines.go ⟨text, []⟩ start lines =
      lines.map fun line => (⟨line, []⟩ : Styled) := by
    intro lines
    induction lines with
    | nil => exact fun _ => rfl
    | cons line rest ih =>
        intro start
        rw [Styled.lines.go, ih]
        rfl
  rw [Styled.lines]
  split
  · exact hgo _ 0
  · next hn =>
      rw [pieces_of_not_mem fun hm => hn (List.contains_iff_mem.mpr hm)]
      rfl

/-- The lines of a text that fit are filled one by one. -/
theorem fillText_of_fits {width : Nat} {text : List Char}
    (h : ∀ line ∈ pieces '\n' text, FitsLine width line) (ht : '\t' ∉ text)
    : fillText width ⟨text, []⟩ =
        .ok ((pieces '\n' text).map fun line => ⟨spaced width line, []⟩) := by
  have hline : ∀ line ∈ (pieces '\n' text).map fun line => (⟨line, []⟩ : Styled), (do
      (← (wrapLine false width line).mapM (fillLine width)).mapM (cutLine true width)) =
        .ok [(⟨spaced width line.text, []⟩ : Styled)] := by
    intro styled hm
    obtain ⟨line, hl, rfl⟩ := List.mem_map.mp hm
    have hcut : cutLine true width ⟨spaced width line, []⟩ = .ok ⟨spaced width line, []⟩ := by
      rw [cutLine, if_pos (cells_spaced_le (h line hl).cells_le)]
      rfl
    rw [wrapLine_of_fits (h line hl) fun hm => ht (mem_of_mem_pieces hl hm).1]
    show (do
      let filled ← [(⟨line, []⟩ : Styled)].mapM (fillLine width)
      filled.mapM (cutLine true width)) = _
    rw [List.mapM_cons, fillLine_of_fits (h line hl).cells_le]
    show [(⟨spaced width line, []⟩ : Styled)].mapM (cutLine true width) = _
    rw [List.mapM_cons, hcut]
    rfl
  rw [fillText, lines_eq_pieces, mapM_eq_ok hline, List.map_map]
  show Except.ok _ = _
  rw [← List.flatMap_def]
  exact congrArg Except.ok (List.flatMap_pure_eq_map _ _)

-----------------------------------------------------------------------------------------
-- Blocks
-----------------------------------------------------------------------------------------

namespace Line

theorem size_eq_sum (line : Line) : line.size = (line.map cells).sum := by
  have hgo : ∀ (line : Line) total, line.foldl (fun total segment => total + cells segment) total =
      total + (line.map cells).sum := by
    intro line
    induction line with
    | nil => exact fun _ => rfl
    | cons segment rest ih =>
        intro total
        rw [List.foldl_cons, ih, List.map_cons, List.sum_cons, Nat.add_assoc]
  rw [size, hgo, Nat.zero_add]

theorem size_append (first second : Line) : size (first ++ second) = first.size + second.size := by
  rw [size_eq_sum, size_eq_sum, size_eq_sum, List.map_append, List.sum_append]

theorem size_cons (segment : List Char) (rest : Line)
    : size (segment :: rest) = cells segment + rest.size := by
  rw [size_eq_sum, size_eq_sum, List.map_cons, List.sum_cons]

theorem size_singleton (segment : List Char) : size [segment] = cells segment := by
  rw [size_eq_sum, List.map_singleton, List.sum_singleton]

/-- The line with a segment of blanks after it up to a width. -/
def completed (width : Nat) (line : Line) : Line :=
  if line.size < width then line ++ [List.replicate (width - line.size) ' '] else line

theorem shape_of_fits {width : Nat} {line : Line} (h : line.size ≤ width)
    : line.shape width = .ok (line.completed width) := by
  rw [shape, completed]
  split
  · rfl
  · rw [fit, if_pos h]

theorem size_completed {width : Nat} {line : Line} (h : line.size ≤ width)
    : (line.completed width).size = width := by
  rw [completed]
  split
  · rw [size_append, size_singleton, show cells (List.replicate _ ' ') = _ from cells_spaces none _]
    omega
  · omega

end Line

/-- The segments of a text without styles take the cells of the text. -/
theorem Line.size_segments (text : List Char)
    : size (⟨text, []⟩ : Styled).segments = cells text := by
  have hcut : (⟨text, []⟩ : Styled).segments = [text].filter (!·.isEmpty) := by
    rw [Styled.segments]
    simp [Styled.segments.cut]
  rw [hcut]
  cases text with
  | nil => rfl
  | cons c rest => exact size_singleton _

/-- A line as it stands in a cell: with blanks up to the width of the content and one on each side.
-/
def padded (width : Nat) (line : List Char) : List Char :=
  ' ' :: filled width line ++ [' ']

/-- The segments of a line that is filled. -/
def filledLine (width : Nat) (line : List Char) : Line :=
  Line.completed width (⟨spaced width line, []⟩ : Styled).segments

/-- The segments of a line as it stands in a cell. -/
def paddedLine (width : Nat) (line : List Char) : Line :=
  [' '] :: filledLine width line ++ [[' ']]

theorem shape_spaced {width : Nat} {line : List Char} (h : cells line ≤ width)
    : Line.shape width (⟨spaced width line, []⟩ : Styled).segments = .ok (filledLine width line) :=
  Line.shape_of_fits (by rw [Line.size_segments]; exact cells_spaced_le h)

theorem size_filledLine {width : Nat} {line : List Char} (h : cells line ≤ width)
    : (filledLine width line).size = width :=
  Line.size_completed (by rw [Line.size_segments]; exact cells_spaced_le h)

/-- The segments of a filled line make it up. -/
theorem flatten_filledLine {width : Nat} {line : List Char} (h : cells line ≤ width)
    : (filledLine width line).flatten = filled width line := by
  have hspace := cells_append_space line
  rw [filledLine, Line.completed, Line.size_segments, filled]
  cases hcount : width - cells line with
  | zero =>
      have hfull : spaced width line = line := by
        rw [spaced, hcount, List.replicate_zero, List.append_nil]
      rw [hfull, if_neg (by omega), if_neg (by omega), Styled.flatten_segments]
  | succ count =>
      have hspaced : cells (spaced width line) = cells (line ++ [' ']) + count := by
        rw [spaced, hcount, cells_append_spaces]
      rw [if_pos (by omega : cells line < width), hspaced]
      split
      · next hshort =>
          have htaken : count + 1 + (width - (cells (line ++ [' ']) + count)) =
              width + 1 - cells (line ++ [' ']) := by
            omega
          rw [List.flatten_append, Styled.flatten_segments, List.flatten_singleton, spaced, hcount,
            List.append_assoc, List.replicate_append_replicate, htaken]
      · next hlong =>
          have htaken : count + 1 = width + 1 - cells (line ++ [' ']) := by
            omega
          rw [Styled.flatten_segments, spaced, hcount, htaken]

theorem size_paddedLine {width : Nat} {line : List Char} (h : cells line ≤ width)
    : (paddedLine width line).size = width + cellPadding := by
  rw [paddedLine, Line.size_append, Line.size_cons, size_filledLine h, Line.size_singleton]
  show 1 + width + 1 = width + 2
  omega

/-- A line stands in a cell as it is, with blanks. -/
theorem flatten_paddedLine {width : Nat} {line : List Char} (h : cells line ≤ width)
    : (paddedLine width line).flatten = padded width line := by
  rw [paddedLine, padded, List.flatten_append, List.flatten_cons, flatten_filledLine h]
  rfl

/-- The lines of a cell are those of its text, if they fit. -/
theorem cellLines_of_fits {width : Nat} {text : List Char} (hw : 0 < width)
    (h : ∀ line ∈ pieces '\n' text, FitsLine width line) (ht : '\t' ∉ text)
    : cellLines (width + cellPadding) ⟨text, []⟩ =
        .ok ((pieces '\n' text).map (paddedLine width)) := by
  have hread : Line.ofStyled ((pieces '\n' text).map fun line => ⟨spaced width line, []⟩) =
      .ok (((pieces '\n' text).map fun line => ⟨spaced width line, []⟩).map Styled.segments) := by
    refine @Line.ofStyled_of_holds (fun _ => True) _ fun line hl => ?_
    obtain ⟨own, -, rfl⟩ := List.mem_map.mp hl
    exact ⟨fun _ _ => trivial, fun _ hs => absurd hs List.not_mem_nil⟩
  have hfill : (((pieces '\n' text).map fun line => (⟨spaced width line, []⟩ : Styled)).map
        Styled.segments).mapM (Line.shape width) =
      .ok ((pieces '\n' text).map (filledLine width)) := by
    rw [List.map_map, List.mapM_map]
    exact mapM_eq_ok fun line hl => shape_spaced (h line hl).cells_le
  have hpad : ((pieces '\n' text).map (filledLine width)).mapM (fun line =>
        Line.shape (width + cellPadding) ([' '] :: line ++ [[' ']])) =
      .ok ((pieces '\n' text).map (paddedLine width)) := by
    rw [List.mapM_map]
    refine mapM_eq_ok fun line hl => ?_
    have hsize := size_paddedLine (h line hl).cells_le
    show Line.shape _ (paddedLine width line) = _
    rw [Line.shape_of_fits hsize.le, Line.completed, if_neg (by omega)]
  rw [cellLines, if_neg (by omega), Nat.add_sub_cancel]
  dsimp only
  rw [fillText_of_fits h ht]
  show (do
    let lines ← Line.ofStyled ((pieces '\n' text).map fun line => ⟨spaced width line, []⟩)
    let lines ← (lines.mapM (Line.shape width)).mapError Problem.cut
    (lines.mapM fun line =>
      Line.shape (width + cellPadding) ([' '] :: line ++ [[' ']])).mapError Problem.cut) = _
  rw [hread]
  show (do
    let lines ← (((((pieces '\n' text).map fun line => (⟨spaced width line, []⟩ : Styled)).map
      Styled.segments).mapM (Line.shape width)).mapError Problem.cut)
    (lines.mapM fun line =>
      Line.shape (width + cellPadding) ([' '] :: line ++ [[' ']])).mapError Problem.cut) = _
  rw [hfill]
  show Except.mapError Problem.cut (((pieces '\n' text).map (filledLine width)).mapM fun line =>
    Line.shape (width + cellPadding) ([' '] :: line ++ [[' ']])) = _
  rw [hpad]
  rfl

end Display

end SqlShell
