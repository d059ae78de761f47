import SqlShell.Proofs.Display.TableCells
import SqlShell.Proofs.Sums

/-! Tables as boxes: the lines of the texts between rules, each line filled up to the width of its
column. A table of texts that fit into their columns is shown as its box.
-/

namespace SqlShell.Display

open Text

-----------------------------------------------------------------------------------------
-- Boxes
-----------------------------------------------------------------------------------------

/-- What stands between two vertical lines, and before the first one and after the last one. -/
def barred (bar : Char) (parts : List (List Char)) : List Char :=
  bar :: (parts.intersperse [bar]).flatten ++ [bar]

/-- The lines of a text in a column, with blank lines that make them as many as the given height. -/
def Stand.block (stand : Stand) (width height : Nat) (text : List Char) : List (List Char) :=
  let own := (pieces '\n' text).map (padded width)
  let blanks := List.replicate (height - own.length) (padded width [])
  match stand with
  | .top => own ++ blanks
  | .bottom => blanks ++ own

/-- The lines of a row. Each of the texts stands in a column whose content has the given width. -/
def boxRow (stand : Stand) (bar : Char) (widths : List Nat) (texts : List (List Char))
    : List (List Char) :=
  let cells := widths.zip texts
  let height := (cells.map fun cell => (pieces '\n' cell.2).length).foldl max 1
  (List.range height).map fun i =>
    barred bar (cells.map fun cell =>
      ((stand.block cell.1 height cell.2)[i]?).getD (padded cell.1 []))

/-- A horizontal line of a box. -/
def boxRule (left fill joint right : Char) (widths : List Nat) : List Char :=
  left :: ((widths.map fun width => List.replicate (width + cellPadding) fill).intersperse
    [joint]).flatten ++ [right]

/-- The box of a table: headings and rows below them, in columns whose contents have given widths.
-/
def box (widths : List Nat) (headings : List (List Char)) (rows : List (List (List Char)))
    : List Char :=
  ([boxRule '┏' '━' '┳' '┓' widths] ++ boxRow .bottom '┃' widths headings
    ++ [boxRule '┡' '━' '╇' '┩' widths] ++ rows.flatMap (boxRow .top '│' widths)
    ++ [boxRule '└' '─' '┴' '┘' widths]).flatMap (· ++ ['\n'])

/-- The width of a text: that of its widest line. -/
def textWidth (text : List Char) : Nat :=
  ((splitLines text).map cells).foldl max 0

/-- The width of the content of a column: that of its widest text. -/
def contentWidth (texts : List (List Char)) : Nat :=
  (texts.map textWidth).foldl max 0

/-- The cells that a line of a box takes. -/
def boxWidth (widths : List Nat) : Nat :=
  (widths.map (· + cellPadding)).sum + widths.length + 1

/-- The text fits into a column whose content has the given width: its lines do, and it is empty if
there is no room for content.
-/
structure FitsColumn (width : Nat) (text : List Char) : Prop where
  room : 0 < width ∨ text = []
  lines : ∀ line ∈ pieces '\n' text, FitsLine width line

-----------------------------------------------------------------------------------------
-- Parts between bars
-----------------------------------------------------------------------------------------

/-- The parts between separators, with their segments joined. By induction on the parts. -/
theorem flatten_intersperse (separator : List Char) (parts : List Line)
    : (parts.intersperse [separator]).flatten.flatten =
        ((parts.map List.flatten).intersperse separator).flatten := by
  induction parts with
  | nil => rfl
  | cons part rest ih =>
      cases rest with
      | nil => simp
      | cons second rest =>
          rw [List.intersperse_cons_cons, List.flatten_cons, List.flatten_append, List.flatten_cons,
            List.flatten_append, ih]
          simp

theorem mem_or_eq_of_mem_intersperse {α : Type} {separator item : α} {items : List α}
    (h : item ∈ items.intersperse separator)
    : item ∈ items ∨ item = separator := by
  induction items with
  | nil => exact absurd h List.not_mem_nil
  | cons first rest ih =>
      cases rest with
      | nil => exact Or.inl h
      | cons second rest =>
          rw [List.intersperse_cons_cons, List.mem_cons, List.mem_cons] at h
          rcases h with rfl | rfl | h
          · exact Or.inl List.mem_cons_self
          · exact Or.inr rfl
          · exact (ih h).imp_left (List.mem_cons_of_mem first)

theorem Line.size_flatten (lines : List Line) : Line.size lines.flatten = (lines.map size).sum := by
  induction lines with
  | nil => rfl
  | cons line rest ih => rw [List.flatten_cons, size_append, ih, List.map_cons, List.sum_cons]

/-- What takes cells of its own is measured by them wherever it stands. -/
theorem ne_of_charCells {c : Char} (h : charCells c ≠ 0) : c ≠ joiner ∧ c ≠ pictureMark := by
  have hnone : charCells joiner = 0 ∧ charCells pictureMark = 0 := by decide +kernel
  exact ⟨fun he => h (he ▸ hnone.1), fun he => h (he ▸ hnone.2)⟩

/-- A text of characters that take one cell each takes as many cells as it has characters. By
induction on the text.
-/
theorem cells_eq_length {text : List Char} (h : ∀ c ∈ text, charCells c = 1)
    : cells text = text.length := by
  suffices hgo : ∀ shown, cells.go shown false text = text.length from hgo none
  induction text with
  | nil => exact fun _ => rfl
  | cons c rest ih =>
      intro shown
      have hc := h c List.mem_cons_self
      obtain ⟨hj, hp⟩ := ne_of_charCells (hc.trans_ne Nat.one_ne_zero)
      rw [cells.go, if_neg Bool.false_ne_true, if_neg hj, if_neg hp, hc]
      show 1 + cells.go _ false rest = rest.length + 1
      rw [ih fun d hd => h d (List.mem_cons_of_mem c hd), Nat.add_comm]

-----------------------------------------------------------------------------------------
-- Rows
-----------------------------------------------------------------------------------------

/-- The lines of a cell whose text fits. -/
def cellBlock (width : Nat) (text : List Char) : List Line :=
  if width = 0 then [] else (pieces '\n' text).map (paddedLine width)

theorem cellLines_of_fitsColumn {width : Nat} {text : List Char} (h : FitsColumn width text)
    (ht : '\t' ∉ text)
    : cellLines (width + cellPadding) ⟨text, []⟩ = .ok (cellBlock width text) := by
  rw [cellBlock]
  split
  · next hw => rw [hw, cellLines, if_pos (Nat.le_of_eq (Nat.zero_add _))]; rfl
  · next hw => exact cellLines_of_fits (Nat.pos_of_ne_zero hw) h.lines ht

theorem padded_nil (width : Nat) : padded width [] = List.replicate (width + cellPadding) ' ' := by
  have hfilled : filled width [] = List.replicate width ' ' := by
    rw [filled]
    split
    · rw [List.nil_append]
      rfl
    · next hw => rw [Nat.eq_zero_of_not_pos hw]; rfl
  rw [padded, hfilled, cellPadding, List.replicate_succ, List.replicate_succ']
  rfl

/-- The lines of a cell and the blank ones with them are those of its text. -/
theorem map_flatten_fill {width height : Nat} {text : List Char} (h : FitsColumn width text)
    (hh : 0 < height) (stand : Stand)
    : (stand.fill (width + cellPadding) height (cellBlock width text)).map List.flatten =
        stand.block width height text := by
  have hblank : List.flatten [List.replicate (width + cellPadding) ' '] = padded width [] := by
    rw [padded_nil, List.flatten_singleton]
  by_cases hw : width = 0
  · obtain rfl : text = [] := h.room.resolve_left (by omega)
    obtain ⟨more, rfl⟩ : ∃ more, height = more + 1 := ⟨height - 1, by omega⟩
    rw [cellBlock, if_pos hw]
    cases stand with
    | top => simp [Stand.fill, Stand.block, pieces, hblank, List.replicate_succ]
    | bottom => simp [Stand.fill, Stand.block, pieces, hblank, List.replicate_succ']
  · have hown : ((pieces '\n' text).map (paddedLine width)).map List.flatten =
        (pieces '\n' text).map (padded width) := by
      rw [List.map_map]
      exact List.map_congr_left fun line hl => flatten_paddedLine (h.lines line hl).cells_le
    rw [cellBlock, if_neg hw]
    cases stand with
    | top => simp only [Stand.fill, Stand.block, List.map_append, List.map_replicate, hblank, hown,
        List.length_map]
    | bottom => simp only [Stand.fill, Stand.block, List.map_append, List.map_replicate, hblank,
        hown, List.length_map]

/-- All lines of a cell take the width of the column. -/
theorem size_of_mem_fill {width height : Nat} {text : List Char} (h : FitsColumn width text)
    {stand : Stand} {line : Line}
    (hl : line ∈ stand.fill (width + cellPadding) height (cellBlock width text))
    : line.size = width + cellPadding := by
  have hmem : line ∈ cellBlock width text ∨ line = [List.replicate (width + cellPadding) ' '] := by
    cases stand with
    | top => exact (List.mem_append.mp hl).imp_right List.eq_of_mem_replicate
    | bottom => exact (List.mem_append.mp hl).symm.imp_right List.eq_of_mem_replicate
  rcases hmem with hm | rfl
  · rw [cellBlock] at hm
    split at hm
    · exact absurd hm List.not_mem_nil
    · obtain ⟨own, ho, rfl⟩ := List.mem_map.mp hm
      exact size_paddedLine (h.lines own ho).cells_le
  · rw [Line.size_singleton]
    exact cells_spaces none _

theorem max_length_cellBlock {width : Nat} {text : List Char} (h : FitsColumn width text)
    : max 1 (cellBlock width text).length = max 1 (pieces '\n' text).length := by
  rw [cellBlock]
  split
  · next hw =>
      obtain rfl : text = [] := h.room.resolve_left (by omega)
      rfl
  · rw [List.length_map]

/-- Parts between vertical lines, with their segments joined. -/
theorem flatten_barred (bar : Char) (parts : List Line)
    : ([bar] :: (parts.intersperse [[bar]]).flatten ++ [[bar]]).flatten =
        barred bar (parts.map List.flatten) := by
  rw [List.flatten_append, List.flatten_cons, flatten_intersperse]
  rfl

theorem size_barred {bar : Char} (hb : cells [bar] = 1) {parts : List Line} (hn : parts ≠ [])
    : Line.size ([bar] :: (parts.intersperse [[bar]]).flatten ++ [[bar]]) =
        (parts.map Line.size).sum + parts.length + 1 := by
  cases parts with
  | nil => exact absurd rfl hn
  | cons part parts =>
      rw [Line.size_append, Line.size_cons, Line.size_flatten, sum_map_intersperse,
        Line.size_singleton, hb, List.length_cons]
      omega

/-- The height of blocks beside each other. -/
def highest (blocks : List (Nat × List Line)) : Nat :=
  (blocks.map fun block => block.2.length).foldl max 1

/-- The lines of blocks beside each other, each one given with its width. -/
def joined (stand : Stand) (bar : Char) (height : Nat) (blocks : List (Nat × List Line))
    : List Line :=
  (List.range height).map fun i =>
    [bar] :: ((blocks.map fun block => ((stand.fill block.1 height block.2)[i]?).getD
      [List.replicate block.1 ' ']).intersperse [[bar]]).flatten ++ [[bar]]

/-- The lines of a row are those of its cells beside each other. -/
theorem rowLines_eq (stand : Stand) (bar : Char) (widths : List Nat) (texts : List Styled)
    : rowLines stand bar widths texts =
        ((widths.zip texts).mapM fun cell => (cellLines cell.1 cell.2).map (cell.1, ·)).map
          fun blocks => joined stand bar (highest blocks) blocks := by
  have hcell : (fun cell : Nat × Styled => (cellLines cell.1 cell.2).map (cell.1, ·)) =
      fun cell => do return (cell.1, ← cellLines cell.1 cell.2) := by
    funext cell
    cases cellLines cell.1 cell.2 with
    | error problem => rfl
    | ok lines => rfl
  rw [hcell, rowLines]
  show ((widths.zip texts).mapM (fun cell => do return (cell.1, ← cellLines cell.1 cell.2)) >>=
    fun blocks => _) = _
  cases (widths.zip texts).mapM fun cell => do return (cell.1, ← cellLines cell.1 cell.2) with
  | error problem => rfl
  | ok blocks =>
      refine congrArg Except.ok ?_
      simp only [List.map_map]
      rfl

/-- The blocks of texts that fit, with the widths of their columns. -/
def cellBlocks (widths : List Nat) (texts : List (List Char)) : List (Nat × List Line) :=
  (widths.zip texts).map fun cell => (cell.1 + cellPadding, cellBlock cell.1 cell.2)

section

variable {widths : List Nat} {texts : List (List Char)} {bar : Char}

theorem rowLines_cellBlocks (h : ∀ cell ∈ widths.zip texts, FitsColumn cell.1 cell.2)
    (ht : ∀ text ∈ texts, '\t' ∉ text) (stand : Stand) (bar : Char)
    : rowLines stand bar (widths.map (· + cellPadding)) (texts.map fun text => ⟨text, []⟩) =
        .ok (joined stand bar (highest (cellBlocks widths texts)) (cellBlocks widths texts)) := by
  have hblocks : ((widths.map (· + cellPadding)).zip
        (texts.map fun text => (⟨text, []⟩ : Styled))).mapM
          (fun cell => (cellLines cell.1 cell.2).map (cell.1, ·)) =
      .ok (cellBlocks widths texts) := by
    rw [List.zip_map, List.mapM_map]
    refine mapM_eq_ok fun cell hc => ?_
    show (cellLines (cell.1 + cellPadding) ⟨cell.2, []⟩).map (cell.1 + cellPadding, ·) = _
    rw [cellLines_of_fitsColumn (h cell hc) (ht cell.2 (List.of_mem_zip hc).2)]
    rfl
  rw [rowLines_eq, hblocks]
  rfl

theorem highest_cellBlocks (h : ∀ cell ∈ widths.zip texts, FitsColumn cell.1 cell.2)
    : highest (cellBlocks widths texts) =
        ((widths.zip texts).map fun cell => (pieces '\n' cell.2).length).foldl max 1 := by
  rw [highest, cellBlocks, List.map_map]
  exact foldl_max_congr (Nat.le_refl 1) fun cell hc => max_length_cellBlock (h cell hc)

/-- Blocks beside each other make the lines of the box. -/
theorem map_flatten_joined (h : ∀ cell ∈ widths.zip texts, FitsColumn cell.1 cell.2)
    (stand : Stand) (bar : Char)
    : (joined stand bar (highest (cellBlocks widths texts)) (cellBlocks widths texts)).map
          List.flatten =
        boxRow stand bar widths texts := by
  rw [highest_cellBlocks h, joined, boxRow, List.map_map]
  refine List.map_congr_left fun i _ => ?_
  dsimp only [Function.comp_apply]
  rw [flatten_barred, cellBlocks, List.map_map, List.map_map]
  congr 1
  refine List.map_congr_left fun cell hc => ?_
  dsimp only [Function.comp_apply]
  rw [← map_flatten_fill (h cell hc) (le_foldl_max _ 1), List.getElem?_map, padded_nil]
  generalize (stand.fill _ _ _)[i]? = found
  cases found with
  | none => exact List.flatten_singleton
  | some line => rfl

/-- Every line of blocks beside each other takes the width of the box. -/
theorem size_of_mem_joined (hl : widths.length = texts.length) (hn : widths ≠ [])
    (h : ∀ cell ∈ widths.zip texts, FitsColumn cell.1 cell.2) (hb : cells [bar] = 1)
    {stand : Stand} {height : Nat} {line : Line}
    (hm : line ∈ joined stand bar height (cellBlocks widths texts))
    : line.size = boxWidth widths := by
  have hwidths : (widths.zip texts).map (fun cell => cell.1 + cellPadding) =
      widths.map (· + cellPadding) := by
    rw [← List.map_fst_zip hl.le, List.map_map, List.map_fst_zip hl.le]
    rfl
  have hsome : (widths.zip texts).length = widths.length := by
    rw [List.length_zip, ← hl, Nat.min_self]
  obtain ⟨i, -, rfl⟩ := List.mem_map.mp hm
  rw [cellBlocks, List.map_map, size_barred hb]
  · rw [List.length_map, hsome, boxWidth, ← hwidths, List.map_map]
    congr 3
    refine List.map_congr_left fun cell hc => ?_
    dsimp only [Function.comp_apply]
    cases hf : (stand.fill (cell.1 + cellPadding) height (cellBlock cell.1 cell.2))[i]? with
    | none =>
        rw [Option.getD_none, Line.size_singleton]
        exact cells_spaces none _
    | some line => exact size_of_mem_fill (h cell hc) (List.mem_of_getElem? hf)
  · rw [← List.length_pos_iff, List.length_map, hsome]
    exact List.length_pos_iff.mpr hn

end

-----------------------------------------------------------------------------------------
-- Rules
-----------------------------------------------------------------------------------------

theorem flatten_rule (left fill joint right : Char) (widths : List Nat)
    : (rule left fill joint right (widths.map (· + cellPadding))).flatten =
        boxRule left fill joint right widths := by
  rw [rule, List.flatten_singleton, boxRule, List.map_map]
  rfl

theorem mem_of_mem_rule {left fill joint right c : Char} {widths : List Nat}
    (h : c ∈ (rule left fill joint right widths).flatten)
    : c ∈ [left, fill, joint, right] := by
  rw [rule, List.flatten_singleton] at h
  rcases List.mem_append.mp h with h | h
  · rcases List.mem_cons.mp h with rfl | h
    · exact List.mem_cons_self
    · obtain ⟨part, hp, h⟩ := List.mem_flatten.mp h
      rcases mem_or_eq_of_mem_intersperse hp with hp | rfl
      · obtain ⟨width, -, rfl⟩ := List.mem_map.mp hp
        simp [List.eq_of_mem_replicate h]
      · simp [List.mem_singleton.mp h]
  · simp [List.mem_singleton.mp h]

/-- A rule of characters that take one cell each is as wide as the box. -/
theorem size_rule {left fill joint right : Char} {widths : List Nat} (hn : widths ≠ [])
    (h : ([left, fill, joint, right].all fun c => charCells c == 1) = true)
    : (rule left fill joint right (widths.map (· + cellPadding))).size = boxWidth widths := by
  have hcells : ∀ c ∈ (rule left fill joint right (widths.map (· + cellPadding))).flatten,
      charCells c = 1 := fun c hc =>
    beq_iff_eq.mp (List.all_eq_true.mp h c (mem_of_mem_rule hc))
  rw [rule, List.flatten_singleton] at hcells
  rw [rule, Line.size_singleton, cells_eq_length hcells]
  cases widths with
  | nil => exact absurd rfl hn
  | cons width widths =>
      rw [List.map_cons, List.map_cons, List.length_append, List.length_cons, List.length_flatten,
        sum_map_intersperse]
      simp [boxWidth, Function.comp_def]
      omega

/-- Lines that are not wider than the terminal are written as they are, by induction on them. -/
theorem writeLines_of_fits {width : Nat} {lines : List Line} (h : ∀ line ∈ lines, line.size ≤ width)
    : writeLines width lines = { text := (lines.map List.flatten).flatMap (· ++ ['\n']) } := by
  induction lines with
  | nil => rfl
  | cons line rest ih =>
      rw [writeLines, Line.fit, if_pos (h line List.mem_cons_self)]
      dsimp only
      rw [ih fun other ho => h other (List.mem_cons_of_mem line ho), List.map_cons, List.flatMap_cons]
      simp

-----------------------------------------------------------------------------------------
-- Contents of a box
-----------------------------------------------------------------------------------------

theorem length_block (stand : Stand) (width height : Nat) (text : List Char)
    : (stand.block width height text).length = max (pieces '\n' text).length height := by
  cases stand with
  | top =>
      rw [Stand.block, List.length_append, List.length_replicate, List.length_map]
      omega
  | bottom =>
      rw [Stand.block, List.length_append, List.length_replicate, List.length_map]
      omega

theorem mem_intersperse_of_mem {α : Type} (separator : α) {item : α} {items : List α}
    (h : item ∈ items)
    : item ∈ items.intersperse separator := by
  induction items with
  | nil => exact h
  | cons first rest ih =>
      cases rest with
      | nil => exact h
      | cons second rest =>
          rw [List.intersperse_cons_cons, List.mem_cons, List.mem_cons]
          exact (List.mem_cons.mp h).imp_right fun hm => Or.inr (ih hm)

/-- A part between vertical lines is shown. -/
theorem infix_barred {bar : Char} {part : List Char} {parts : List (List Char)} (h : part ∈ parts)
    : part <:+: barred bar parts := by
  have hin : part <:+: (parts.intersperse [bar]).flatten :=
    List.infix_of_mem_flatten (mem_intersperse_of_mem [bar] h)
  exact hin.trans (((List.suffix_cons bar _).isInfix).trans (List.prefix_append _ [bar]).isInfix)

theorem infix_padded (width : Nat) (line : List Char) : line <:+: padded width line := by
  have hfilled : line <+: filled width line := by
    rw [filled]
    split
    · exact List.prefix_append line _
    · exact List.prefix_refl line
  exact hfilled.isInfix.trans
    (((List.suffix_cons ' ' _).isInfix).trans (List.prefix_append _ [' ']).isInfix)

/-- Each line of a text stands in some line of its row. -/
theorem exists_infix_boxRow {widths : List Nat} {texts : List (List Char)}
    (hl : widths.length = texts.length) (stand : Stand) (bar : Char) {text line : List Char}
    (ht : text ∈ texts) (hp : line ∈ pieces '\n' text)
    : ∃ shown ∈ boxRow stand bar widths texts, line <:+: shown := by
  obtain ⟨cell, hc, rfl⟩ : ∃ cell ∈ widths.zip texts, cell.2 = text :=
    List.mem_map.mp (by rwa [List.map_snd_zip hl.ge])
  have hblock : ∀ height, padded cell.1 line ∈ stand.block cell.1 height cell.2 := by
    intro height
    have hown : padded cell.1 line ∈ (pieces '\n' cell.2).map (padded cell.1) :=
      List.mem_map.mpr ⟨line, hp, rfl⟩
    cases stand with
    | top => exact List.mem_append_left _ hown
    | bottom => exact List.mem_append_right _ hown
  have hheight : (pieces '\n' cell.2).length ≤
      ((widths.zip texts).map fun cell => (pieces '\n' cell.2).length).foldl max 1 :=
    le_foldl_max_of_mem (List.mem_map.mpr ⟨cell, hc, rfl⟩)
  obtain ⟨i, hi⟩ := List.getElem?_of_mem (hblock _)
  refine ⟨_, List.mem_map.mpr ⟨i, List.mem_range.mpr ?_, rfl⟩, ?_⟩
  · have hlength := (List.getElem?_eq_some_iff.mp hi).1
    rwa [length_block, Nat.max_eq_right hheight] at hlength
  · refine (infix_padded cell.1 line).trans (infix_barred (List.mem_map.mpr ⟨cell, hc, ?_⟩))
    rw [hi, Option.getD_some]

/-- A box shows every line of each of its texts. -/
theorem infix_box {widths : List Nat} {headings : List (List Char)} {rows : List (List (List Char))}
    (hl : ∀ texts ∈ headings :: rows, widths.length = texts.length) {texts : List (List Char)}
    (hr : texts ∈ headings :: rows) {text line : List Char} (ht : text ∈ texts)
    (hp : line ∈ pieces '\n' text)
    : line <:+: box widths headings rows := by
  have hshown : ∀ {shown : List Char} {lines : List (List Char)}, shown ∈ lines → line <:+: shown →
      line <:+: lines.flatMap (· ++ ['\n']) := fun hm hin =>
    (hin.trans (List.prefix_append _ ['\n']).isInfix).trans
      (List.infix_of_mem_flatten (List.mem_map.mpr ⟨_, hm, rfl⟩))
  rw [box]
  rcases List.mem_cons.mp hr with rfl | hrow
  · obtain ⟨shown, hm, hin⟩ := exists_infix_boxRow (hl _ hr) .bottom '┃' ht hp
    exact hshown (by simp [hm]) hin
  · obtain ⟨shown, hm, hin⟩ := exists_infix_boxRow (hl _ hr) .top '│' ht hp
    have hrows : shown ∈ rows.flatMap (boxRow .top '│' widths) :=
      List.mem_flatMap.mpr ⟨texts, hrow, hm⟩
    exact hshown (by simp only [List.mem_append]; exact Or.inl (Or.inr hrows)) hin

end SqlShell.Display
