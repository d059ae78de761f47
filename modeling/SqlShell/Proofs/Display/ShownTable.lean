import SqlShell.Proofs.Display.FreeText
import SqlShell.Proofs.Display.TableBox

/-! A table whose texts are shown as they are, on a terminal that is wide enough: it is the box of
its headings and rows.
-/

namespace SqlShell.Display

open Text

variable {headings : List String} {rows : List (List String)}

-----------------------------------------------------------------------------------------
-- Columns
-----------------------------------------------------------------------------------------

/-- Every row has a cell for each heading. -/
def IsRectangular (headings : List String) (rows : List (List String)) : Prop :=
  headings ≠ [] ∧ ∀ row ∈ rows, row.length = headings.length

/-- The widths of the contents of the columns of a table. -/
def contentWidths (headings : List String) (rows : List (List String)) : List Nat :=
  (tableColumns headings rows).map fun texts => contentWidth (texts.map String.toList)

theorem IsRectangular.length_eq (h : IsRectangular headings rows)
    : ∀ line ∈ headings :: rows, line.length = headings.length :=
  List.forall_mem_cons.mpr ⟨rfl, h.2⟩

/-- The columns of a table that is rectangular. -/
theorem tableColumns_eq (h : IsRectangular headings rows)
    : tableColumns headings rows = (List.range headings.length).map fun i =>
        (headings :: rows).map fun texts => (texts[i]?).getD "" := by
  have hcount : (headings :: rows).foldl (fun most texts => max most texts.length) 0 =
      headings.length := by
    rw [List.foldl_cons, Nat.zero_max]
    exact foldl_max_of_forall_eq h.2 rfl
  rw [tableColumns, hcount]

/-- The texts of a row, taken from the columns. -/
theorem map_tableColumns {α : Type} (h : IsRectangular headings rows) (f : String → α) (default : α)
    {line : List String} {i : Nat} (hl : (headings :: rows)[i]? = some line)
    : ((tableColumns headings rows).map fun texts => ((texts.map f)[i]?).getD default) =
        line.map f := by
  rw [tableColumns_eq h, List.map_map, ← h.length_eq line (List.mem_of_getElem? hl),
    ← map_range_getD f "" line]
  refine List.map_congr_left fun j _ => ?_
  dsimp only [Function.comp_apply]
  rw [List.getElem?_map, List.getElem?_map, hl]
  rfl

/-- Every text fits into its column. -/
def FitsColumns (headings : List String) (rows : List (List String)) : Prop :=
  ∀ column ∈ tableColumns headings rows, ∀ text ∈ column,
    FitsColumn (contentWidth (column.map String.toList)) text.toList

/-- What fits the columns fits them row by row. -/
theorem fits_of_mem_zip (h : IsRectangular headings rows) (hf : FitsColumns headings rows)
    {line : List String} (hl : line ∈ headings :: rows)
    : ∀ cell ∈ (contentWidths headings rows).zip (line.map String.toList),
        FitsColumn cell.1 cell.2 := by
  intro cell hc
  rw [contentWidths, tableColumns_eq h, List.map_map, ← map_range_getD String.toList "" line,
    h.length_eq line hl, List.zip_map'] at hc
  obtain ⟨j, hj, rfl⟩ := List.mem_map.mp hc
  refine hf _ ?_ _ (List.mem_map.mpr ⟨line, hl, rfl⟩)
  rw [tableColumns_eq h]
  exact List.mem_map.mpr ⟨j, hj, rfl⟩

/-- The columns of a table hold the texts of its headings and rows. -/
theorem forall_mem_tableColumns (h : IsRectangular headings rows) {P : String → Prop}
    : (∀ column ∈ tableColumns headings rows, ∀ text ∈ column, P text)
        ↔ ∀ line ∈ headings :: rows, ∀ text ∈ line, P text := by
  have hcell : ∀ texts ∈ headings :: rows, ∀ text, text ∈ texts ↔
      ∃ i ∈ List.range headings.length, (texts[i]?).getD "" = text := by
    intro texts hl text
    rw [← h.length_eq texts hl, ← List.mem_map, map_range_getD (·) "" texts, List.map_id']
  rw [tableColumns_eq h]
  constructor
  · intro hall line hl text ht
    obtain ⟨i, hi, rfl⟩ := (hcell line hl text).mp ht
    exact hall _ (List.mem_map.mpr ⟨i, hi, rfl⟩) _ (List.mem_map.mpr ⟨line, hl, rfl⟩)
  · intro hall column hc text ht
    obtain ⟨i, hi, rfl⟩ := List.mem_map.mp hc
    obtain ⟨line, hl, rfl⟩ := List.mem_map.mp ht
    exact hall line hl _ ((hcell line hl _).mpr ⟨i, hi, rfl⟩)

theorem length_contentWidths (h : IsRectangular headings rows)
    : (contentWidths headings rows).length = headings.length := by
  rw [contentWidths, List.length_map, tableColumns_eq h, List.length_map, List.length_range]

-----------------------------------------------------------------------------------------
-- Widths
-----------------------------------------------------------------------------------------

/-- A text takes its own width in a cell if there is room for it. -/
theorem cellWidth_of_le {most : Nat} {text : List Char} (h : textWidth text + cellPadding ≤ most)
    : cellWidth most text = textWidth text + cellPadding := by
  rw [textWidth] at h ⊢
  rw [cellWidth]
  split
  · omega
  · dsimp only
    omega

/-- A column takes the width of its content if there is room for it. -/
theorem columnWidth_of_le {most : Nat} {texts : List (List Char)} (hn : texts ≠ [])
    (h : contentWidth texts + cellPadding ≤ most)
    : columnWidth most texts = contentWidth texts + cellPadding := by
  have hcells : texts.map (cellWidth most) = (texts.map textWidth).map (· + cellPadding) := by
    rw [List.map_map]
    refine List.map_congr_left fun text ht => cellWidth_of_le ?_
    have hle : textWidth text ≤ contentWidth texts :=
      le_foldl_max_of_mem (List.mem_map.mpr ⟨text, ht, rfl⟩)
    omega
  rw [columnWidth, hcells, contentWidth]
  cases texts with
  | nil => exact absurd rfl hn
  | cons text rest =>
      rw [List.map_cons, List.map_cons, List.foldl_cons, List.foldl_cons, Nat.zero_max,
        Nat.zero_max, foldl_max_add]

theorem totalWidth_eq_sum (sizes : List Nat) : totalWidth sizes = sizes.sum :=
  List.sum_eq_foldl.symm

/-- A column takes no more than all columns together. -/
theorem contentWidth_le {column : List String} (hc : column ∈ tableColumns headings rows)
    : contentWidth (column.map String.toList) + cellPadding ≤
        ((contentWidths headings rows).map (· + cellPadding)).sum := by
  refine List.le_sum_of_mem ?_
  rw [contentWidths, List.map_map]
  exact List.mem_map.mpr ⟨column, hc, rfl⟩

/-- The columns of a table take the widths of their contents if there is room for all of them. -/
theorem columnWidths_of_le (h : IsRectangular headings rows) {width : Nat}
    (hw : boxWidth (contentWidths headings rows) ≤ width)
    : columnWidths (width - ((tableColumns headings rows).length + 1))
          ((tableColumns headings rows).map fun texts => texts.map String.toList) =
        (contentWidths headings rows).map (· + cellPadding) := by
  rw [boxWidth, contentWidths, List.length_map] at hw
  have hwidths : ((tableColumns headings rows).map fun texts => texts.map String.toList).map
        (fun texts => max 1 (columnWidth (width - ((tableColumns headings rows).length + 1)) texts)) =
      (contentWidths headings rows).map (· + cellPadding) := by
    rw [contentWidths, List.map_map, List.map_map]
    refine List.map_congr_left fun texts ht => ?_
    have hle := contentWidth_le ht
    rw [contentWidths] at hle
    have hn : texts.map String.toList ≠ [] := by
      rw [tableColumns_eq h] at ht
      obtain ⟨j, -, rfl⟩ := List.mem_map.mp ht
      exact List.cons_ne_nil _ _
    dsimp only [Function.comp_apply]
    rw [columnWidth_of_le hn (by omega)]
    exact Nat.max_eq_right (by rw [cellPadding]; omega)
  rw [columnWidths, hwidths, totalWidth_eq_sum, if_pos]
  rw [contentWidths]
  omega

/-- Whatever ends lines takes no cells. -/
theorem charCells_lineEnd {c : Char} (h : isLineEnd c = true) : charCells c = 0 := by
  have hwide : charCells (Char.ofNat 0x2028) = 0 ∧ charCells (Char.ofNat 0x2029) = 0 := by
    decide +kernel
  simp only [isLineEnd, Bool.or_eq_true, Bool.and_eq_true, decide_eq_true_eq, beq_iff_eq] at h
  rcases h with (((h | h) | h) | h) | h
  · rw [charCells]
    exact if_pos (by simp; omega)
  · rw [charCells]
    exact if_pos (by simp; omega)
  · rw [charCells]
    exact if_pos (by simp; omega)
  · rw [← Char.ofNat_toNat c, h]
    exact hwide.1
  · rw [← Char.ofNat_toNat c, h]
    exact hwide.2

/-- If only line feeds end lines, the pieces between them are the lines of a text, but for an empty
one after a line feed at its end. By induction on the text.
-/
theorem pieces_eq_splitLines {text : List Char} (h : ∀ c ∈ text, isLineEnd c = true → c = '\n')
    : pieces '\n' text = splitLines text ∨ pieces '\n' text = splitLines text ++ [[]] := by
  induction text with
  | nil => exact Or.inr rfl
  | cons c rest ih =>
      have hrest := ih fun d hd => h d (List.mem_cons_of_mem c hd)
      have hreturn : c ≠ '\r' := fun he =>
        absurd (h c List.mem_cons_self (by rw [he]; rfl)) (by rw [he]; decide)
      rw [splitLines.eq_3 c rest fun _ he _ => hreturn he, pieces]
      by_cases hc : c = '\n'
      · have hend : isLineEnd c = true := by rw [hc]; rfl
        rw [if_pos hc, if_pos hend]
        exact hrest.imp (congrArg ([] :: ·)) (congrArg ([] :: ·))
      · have hend : ¬ isLineEnd c = true := fun he => hc (h c List.mem_cons_self he)
        rw [if_neg hc, if_neg hend]
        rcases hrest with hrest | hrest
        · rw [hrest]
          exact Or.inl (by cases splitLines rest <;> rfl)
        · rw [hrest]
          cases splitLines rest with
          | nil => exact Or.inl rfl
          | cons line lines => exact Or.inr rfl

/-- A text of characters that take cells takes no fewer cells than it has characters, by induction
on it.
-/
theorem length_le_cells {text : List Char} (h : ∀ c ∈ text, charCells c ≠ 0)
    : text.length ≤ cells text := by
  suffices hgo : ∀ shown, text.length ≤ cells.go shown false text from hgo none
  induction text with
  | nil => exact fun _ => Nat.le_refl _
  | cons c rest ih =>
      intro shown
      have hc := h c List.mem_cons_self
      obtain ⟨hj, hp⟩ := ne_of_charCells hc
      rw [cells.go, if_neg Bool.false_ne_true, if_neg hj, if_neg hp, List.length_cons, Nat.add_comm]
      exact Nat.add_le_add (Nat.one_le_iff_ne_zero.mpr hc)
        (ih (fun d hd => h d (List.mem_cons_of_mem c hd)) _)

/-- A text whose characters all take cells, but for its line feeds, fits into its column. -/
theorem FitsColumn.of_charCells {texts : List (List Char)} {text : List Char} (ht : text ∈ texts)
    (hr : 0 < contentWidth texts ∨ text = []) (h : ∀ c ∈ text, c = '\n' ∨ charCells c ≠ 0)
    : FitsColumn (contentWidth texts) text := by
  have hends : ∀ c ∈ text, isLineEnd c = true → c = '\n' := fun c hc he =>
    (h c hc).resolve_right fun hn => hn (charCells_lineEnd he)
  refine ⟨hr, fun line hl => ?_⟩
  have hchars : ∀ c ∈ line, charCells c ≠ 0 := fun c hc =>
    (h c (mem_of_mem_pieces hl hc).1).resolve_left (mem_of_mem_pieces hl hc).2
  have hwidth : cells line ≤ textWidth text := by
    have hmem : line ∈ splitLines text ∨ line = [] := by
      rcases pieces_eq_splitLines hends with he | he
      · exact Or.inl (he ▸ hl)
      · exact (List.mem_append.mp (he ▸ hl)).imp_right List.mem_singleton.mp
    rcases hmem with hm | rfl
    · exact le_foldl_max_of_mem (List.mem_map.mpr ⟨line, hm, rfl⟩)
    · exact Nat.zero_le _
  have hle : cells line ≤ contentWidth texts :=
    hwidth.trans (le_foldl_max_of_mem (List.mem_map.mpr ⟨text, ht, rfl⟩))
  exact ⟨hle, Or.inl ((length_le_cells hchars).trans hle)⟩

/-- Texts whose characters all take cells, but for their line feeds, fit into the columns of a table
that have room for any content.
-/
theorem FitsColumns.of_charCells (h : IsRectangular headings rows)
    (hr : ∀ column ∈ tableColumns headings rows,
      0 < contentWidth (column.map String.toList) ∨ ∀ text ∈ column, text.toList = [])
    (hc : ∀ line ∈ headings :: rows, ∀ text ∈ line,
      (text.toList.all fun c => c == '\n' || charCells c != 0) = true)
    : FitsColumns headings rows := by
  intro column hm text ht
  have hall := (forall_mem_tableColumns h).mpr hc column hm
  refine .of_charCells (List.mem_map.mpr ⟨text, ht, rfl⟩) ?_ ?_
  · exact (hr column hm).imp_right fun hall => hall text ht
  · intro c hm
    simpa using List.all_eq_true.mp (hall text ht) c hm

-----------------------------------------------------------------------------------------
-- Tables
-----------------------------------------------------------------------------------------

/-- The texts of columns as they are, without any style. -/
def plainColumns (columns : List (List String)) : List (List Styled) :=
  columns.map fun texts => texts.map fun text => ⟨text.toList, []⟩

/-- Texts that are free of markup stand as they are in the cells, and empty ones need not be read.
-/
theorem readCells_of_plain {most : Nat} {columns : List (List String)}
    (hm : ∀ column ∈ columns, ∀ text ∈ column, Markup.IsFree text.toList)
    (he : most ≤ cellPadding → ∀ column ∈ columns, ∀ text ∈ column, text = "")
    : readCells most columns = .ok (plainColumns columns) := by
  rw [readCells]
  split
  · next hsmall =>
      refine congrArg Except.ok (List.map_congr_left fun column hc => ?_)
      refine List.map_congr_left fun text ht => ?_
      rw [he hsmall column hc text ht]
      rfl
  · exact mapM_eq_ok fun column hc => mapM_eq_ok fun text ht =>
      (Markup.render_eq_self_iff text.toList).mpr (hm column hc text ht)

theorem cells_bar {c : Char} (h : charCells c = 1) : cells [c] = 1 :=
  cells_eq_length (List.forall_mem_singleton.mpr h)

/-- The lines of rows are those of their boxes, by induction on the rows. -/
theorem map_flatten_of_forall₂ {α : Type} {size : Nat} {g : α → List (List Char)} {items : List α}
    {blocks : List (List Line)}
    (h : List.Forall₂ (fun item lines => lines.map List.flatten = g item
      ∧ ∀ line ∈ lines, line.size = size) items blocks)
    : blocks.flatten.map List.flatten = items.flatMap g
      ∧ ∀ line ∈ blocks.flatten, line.size = size := by
  induction h with
  | nil => exact ⟨rfl, fun _ hm => absurd hm List.not_mem_nil⟩
  | cons hb _ ih =>
      rw [List.flatten_cons, List.map_append, List.flatMap_cons, hb.1, ih.1, List.forall_mem_append]
      exact ⟨rfl, hb.2, ih.2⟩

/-- The lines of a row of a table whose texts fit into their columns. -/
theorem rowLines_tableColumns (h : IsRectangular headings rows)
    (hf : FitsColumns headings rows) {bar : Char} (hb : cells [bar] = 1) (stand : Stand)
    {line : List String} {i : Nat} (hl : (headings :: rows)[i]? = some line)
    (ht : ∀ text ∈ line, '\t' ∉ text.toList)
    : ∃ lines, rowLines stand bar ((contentWidths headings rows).map (· + cellPadding))
          ((plainColumns (tableColumns headings rows)).map fun texts => (texts[i]?).getD {}) =
            .ok lines
        ∧ lines.map List.flatten =
            boxRow stand bar (contentWidths headings rows) (line.map String.toList)
        ∧ ∀ line ∈ lines, line.size = boxWidth (contentWidths headings rows) := by
  have hmem := List.mem_of_getElem? hl
  have hlength : (contentWidths headings rows).length = (line.map String.toList).length := by
    rw [length_contentWidths h, List.length_map, h.length_eq line hmem]
  have hn : contentWidths headings rows ≠ [] := by
    rw [← List.length_pos_iff, length_contentWidths h]
    exact List.length_pos_iff.mpr h.1
  have hfits := fits_of_mem_zip h hf hmem
  have hlines := rowLines_cellBlocks hfits (List.forall_mem_map.mpr ht) stand bar
  have htexts := map_tableColumns h (fun text => (⟨text.toList, []⟩ : Styled)) {} hl
  rw [List.map_map] at hlines
  rw [plainColumns, List.map_map]
  exact ⟨_, (congrArg _ htexts).trans hlines, map_flatten_joined hfits stand bar,
    fun line hm => size_of_mem_joined hlength hn hfits hb hm⟩

/-- Every column of a table has its heading and a cell of each row. -/
theorem count_tableColumns (h : IsRectangular headings rows)
    : ((plainColumns (tableColumns headings rows)).map List.length).foldl max 0 =
        rows.length + 1 := by
  have hlengths : (plainColumns (tableColumns headings rows)).map List.length =
      List.replicate headings.length (rows.length + 1) := by
    rw [plainColumns, tableColumns_eq h, List.map_map, List.map_map, List.eq_replicate_iff]
    refine ⟨by rw [List.length_map, List.length_range], fun length hm => ?_⟩
    obtain ⟨j, -, rfl⟩ := List.mem_map.mp hm
    dsimp only [Function.comp_apply]
    rw [List.length_map, List.length_map, List.length_cons]
  obtain ⟨count, hcount⟩ := Nat.exists_eq_succ_of_ne_zero fun hz =>
    h.1 (List.eq_nil_of_length_eq_zero hz)
  rw [hlengths, hcount, List.replicate_succ, List.foldl_cons, Nat.zero_max]
  exact @foldl_max_of_forall_eq Nat id _ _ _ (fun number hm => List.eq_of_mem_replicate hm) rfl

/-- The lines of a table whose texts fit into their columns. -/
theorem tableLines_of_fits (h : IsRectangular headings rows)
    (hf : FitsColumns headings rows)
    (ht : ∀ line ∈ headings :: rows, ∀ text ∈ line, '\t' ∉ text.toList)
    : ∃ lines, tableLines ((contentWidths headings rows).map (· + cellPadding))
          (plainColumns (tableColumns headings rows)) =
            .ok lines
        ∧ (lines.map List.flatten).flatMap (· ++ ['\n']) =
            box (contentWidths headings rows) (headings.map String.toList)
              (rows.map fun row => row.map String.toList)
        ∧ ∀ line ∈ lines, line.size = boxWidth (contentWidths headings rows) := by
  have hn : contentWidths headings rows ≠ [] := by
    rw [← List.length_pos_iff, length_contentWidths h]
    exact List.length_pos_iff.mpr h.1
  obtain ⟨head, hhead, htop, hsize⟩ :=
    @rowLines_tableColumns headings rows h hf '┃' (cells_bar (by decide +kernel)) .bottom headings 0
      rfl (ht headings List.mem_cons_self)
  have hbelow : ∀ i ∈ List.range rows.length, ∃ lines,
      rowLines .top '│' ((contentWidths headings rows).map (· + cellPadding))
          ((plainColumns (tableColumns headings rows)).map fun texts => (texts[i + 1]?).getD {}) =
            .ok lines
        ∧ lines.map List.flatten = boxRow .top '│' (contentWidths headings rows)
            (((rows[i]?).getD []).map String.toList)
        ∧ ∀ line ∈ lines, line.size = boxWidth (contentWidths headings rows) := by
    intro i hi
    have hrow := List.getElem?_eq_getElem (List.mem_range.mp hi)
    rw [hrow, Option.getD_some]
    exact rowLines_tableColumns h hf (cells_bar (by decide +kernel)) .top hrow
      (ht _ (List.mem_cons_of_mem headings (List.getElem_mem _)))
  obtain ⟨blocks, hblocks, hall⟩ := exists_mapM_forall₂ hbelow
  obtain ⟨hlines, hsizes⟩ := map_flatten_of_forall₂ hall
  have hrows : (List.range rows.length).flatMap (fun i =>
        boxRow .top '│' (contentWidths headings rows) (((rows[i]?).getD []).map String.toList)) =
      (rows.map fun row => row.map String.toList).flatMap
        (boxRow .top '│' (contentWidths headings rows)) := by
    rw [List.flatMap_map, List.flatMap_def, List.flatMap_def, ← map_range_getD _ [] rows]
  rw [hrows] at hlines
  rw [tableLines]
  dsimp only
  rw [count_tableColumns h, hhead, Nat.add_sub_cancel, hblocks]
  refine ⟨_, rfl, ?_, ?_⟩
  · simp only [box, List.map_append, List.map_cons, List.map_nil, flatten_rule, htop, hlines]
  · simp only [List.forall_mem_append, List.forall_mem_singleton]
    exact ⟨⟨⟨⟨size_rule hn (by decide +kernel), hsize⟩, size_rule hn (by decide +kernel)⟩, hsizes⟩,
      size_rule hn (by decide +kernel)⟩

/-- The text stands in a cell as it is: it is free of markup and has no tabulators. -/
structure IsVerbatim (text : List Char) : Prop where
  free : Markup.IsFree text
  no_tab : '\t' ∉ text

/-- A table whose texts fit into their columns and stand there as they are is shown as its box, on a
terminal that is wide enough for that.
-/
theorem table_of_fits (h : IsRectangular headings rows) {width : Nat}
    (hw : boxWidth (contentWidths headings rows) ≤ width) (hf : FitsColumns headings rows)
    (hv : ∀ line ∈ headings :: rows, ∀ text ∈ line, IsVerbatim text.toList)
    : table width headings rows =
        .ok ⟨box (contentWidths headings rows) (headings.map String.toList)
          (rows.map fun row => row.map String.toList), none⟩ := by
  obtain ⟨lines, hlines, hbox, hsizes⟩ :=
    tableLines_of_fits h hf fun line hl text ht => (hv line hl text ht).no_tab
  have hfree : ∀ column ∈ tableColumns headings rows, ∀ text ∈ column, Markup.IsFree text.toList :=
    (forall_mem_tableColumns h).mpr fun line hl text ht => (hv line hl text ht).free
  have hread : readCells (width - ((tableColumns headings rows).length + 1))
        (tableColumns headings rows) =
      .ok (plainColumns (tableColumns headings rows)) := by
    refine readCells_of_plain hfree fun hsmall column hc text ht => ?_
    have hle := contentWidth_le hc
    have hnone : ¬ 0 < contentWidth (column.map String.toList) := by
      rw [boxWidth, contentWidths, List.length_map] at hw
      rw [contentWidths] at hle
      omega
    exact String.toList_eq_nil_iff.mp ((hf column hc text ht).room.resolve_left hnone)
  have htexts : (plainColumns (tableColumns headings rows)).map
        (fun texts => texts.map Styled.text) =
      (tableColumns headings rows).map fun texts => texts.map String.toList := by
    rw [plainColumns, List.map_map]
    refine List.map_congr_left fun texts _ => ?_
    dsimp only [Function.comp_apply]
    rw [List.map_map]
    rfl
  have hwide : ¬ width = 0 := by
    rw [boxWidth] at hw
    omega
  rw [table, if_neg hwide]
  dsimp only
  rw [hread]
  show (do
    let lines ← tableLines (columnWidths (width - ((tableColumns headings rows).length + 1))
      ((plainColumns (tableColumns headings rows)).map fun texts : List Styled =>
        texts.map Styled.text)) (plainColumns (tableColumns headings rows))
    return writeLines width lines) = _
  rw [htexts, columnWidths_of_le h hw, hlines, ← hbox]
  exact congrArg Except.ok (writeLines_of_fits fun line hl => (hsizes line hl).trans_le hw)

end SqlShell.Display
