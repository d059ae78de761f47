import SqlShell.Proofs.Display.ShownTable

/-! The signs of texts that are laid out: their marks and tabulators. Laying texts out adds no signs
to their marks, and the box of a table has all signs of its texts. So a table is shown as its box
only if its texts have lost no mark before and have no tabulators.
-/

namespace SqlShell

namespace Text

-----------------------------------------------------------------------------------------
-- Counts of characters
-----------------------------------------------------------------------------------------

section

variable {p : Char → Bool}

theorem countP_replicate_of_not {c : Char} (h : p c = false) (count : Nat)
    : (List.replicate count c).countP p = 0 := by
  rw [List.countP_replicate, if_neg (Bool.eq_false_iff.mp h)]

/-- The pieces of a text have what is counted in it, unless the separator is counted. By induction
on the text.
-/
theorem sum_countP_pieces {separator : Char} (h : p separator = false) (text : List Char)
    : ((pieces separator text).map (List.countP p)).sum = text.countP p := by
  induction text with
  | nil => rfl
  | cons c rest ih =>
      rw [pieces, List.countP_cons, ← ih]
      split
      · next hc =>
          rw [hc, h, List.map_cons, List.sum_cons, List.countP_nil, Nat.zero_add]
          rfl
      · cases pieces separator rest with
        | nil =>
            rw [List.map_singleton, List.sum_singleton, List.countP_cons, List.map_nil, List.sum_nil,
              List.countP_nil]
        | cons piece more =>
            rw [List.map_cons, List.map_cons, List.sum_cons, List.sum_cons, List.countP_cons]
            omega

/-- Cells are filled with characters of their clusters and blanks, by induction on the clusters. -/
theorem countP_fillCells_le (h : p ' ' = false) (width : Nat) (parts : List Cluster)
    : (fillCells width parts).countP p ≤ (parts.map Cluster.text).flatten.countP p := by
  induction parts generalizing width with
  | nil => exact Nat.le_refl _
  | cons cluster parts ih =>
      rw [fillCells, List.map_cons, List.flatten_cons, List.countP_append]
      split
      · rw [List.countP_append]
        exact Nat.add_le_add_left (ih _) _
      · split
        · exact Nat.zero_le _
        · rw [List.countP_singleton, h]
          exact Nat.zero_le _

theorem countP_takeCells_le (h : p ' ' = false) {width : Nat} {text taken : List Char}
    (ht : takeCells width text = .ok taken)
    : taken.countP p ≤ text.countP p := by
  rw [takeCells] at ht
  dsimp only at ht
  split at ht
  · exact Except.ok.inj ht ▸ Nat.zero_le _
  · split at ht
    · exact Except.ok.inj ht ▸ Nat.le_refl _
    · split at ht
      · cases ht
      · split at ht
        · cases ht
        · have hle := countP_fillCells_le h width (clusters text)
          rw [flatten_clusters] at hle
          exact Except.ok.inj ht ▸ hle

end

-----------------------------------------------------------------------------------------
-- Signs of characters
-----------------------------------------------------------------------------------------

/-- A mark or a tabulator. -/
def isSign (c : Char) : Bool :=
  isMark c || c == '\t'

/-- The number of marks and tabulators of a text. -/
def signs (text : List Char) : Nat :=
  text.countP isSign

theorem signs_append (first second : List Char)
    : signs (first ++ second) = signs first + signs second :=
  List.countP_append

theorem signs_cons (c : Char) (rest : List Char)
    : signs (c :: rest) = (if isSign c then 1 else 0) + signs rest := by
  rw [signs, List.countP_cons, Nat.add_comm]
  rfl

theorem signs_eq_zero {text : List Char} (h : ∀ c ∈ text, isSign c = false) : signs text = 0 :=
  List.countP_eq_zero.mpr fun c hc hs => Bool.false_ne_true ((h c hc).symm.trans hs)

theorem signs_replicate_of_not {c : Char} (h : isSign c = false) (count : Nat)
    : signs (List.replicate count c) = 0 :=
  countP_replicate_of_not h count

theorem signs_flatten (parts : List (List Char)) : signs parts.flatten = (parts.map signs).sum :=
  List.countP_flatten

theorem signs_take_le (count : Nat) (text : List Char) : signs (text.take count) ≤ signs text :=
  (List.take_sublist count text).countP_le

theorem marks_le_signs (text : List Char) : marks text ≤ signs text :=
  List.countP_mono_left fun c _ hc => by rw [isSign, hc, Bool.true_or]

/-- Without tabulators a text has no signs but its marks. -/
theorem signs_eq_marks {text : List Char} (h : '\t' ∉ text) : signs text = marks text := by
  refine List.countP_congr fun c hc => ?_
  have hne : c ≠ '\t' := fun he => h (he ▸ hc)
  rw [isSign, beq_eq_false_iff_ne.mpr hne, Bool.or_false]

/-- A text with no signs but its marks has no tabulators. -/
theorem no_tab_of_signs_le {text : List Char} (h : signs text ≤ marks text) : '\t' ∉ text := by
  intro hm
  obtain ⟨before, after, rfl⟩ := List.append_of_mem hm
  have hbefore := marks_le_signs before
  have hafter := marks_le_signs after
  have hsign : signs ('\t' :: after) = signs after + 1 := List.countP_cons_of_pos (by decide)
  have hmark : marks ('\t' :: after) = marks after := List.countP_cons_of_neg (by decide)
  rw [signs_append, marks_append, hsign, hmark] at h
  omega

end Text

namespace Display

open Text

-----------------------------------------------------------------------------------------
-- Signs of lines
-----------------------------------------------------------------------------------------

/-- The marks of a text with styles. -/
def Styled.marks (styled : Styled) : Nat :=
  Text.marks styled.text

/-- The signs of a text with styles. -/
def Styled.signs (styled : Styled) : Nat :=
  Text.signs styled.text

/-- The signs of the segments of a line. -/
def Line.signs (line : Line) : Nat :=
  Text.signs line.flatten

theorem text_withText (text : List Char) (styled : Styled)
    : (styled.withText text).text = text := by
  rw [Styled.withText]
  split
  · rfl
  · rfl

theorem signs_concat (parts : List Styled)
    : (Styled.concat parts).signs = (parts.map Styled.signs).sum := by
  induction parts with
  | nil => rfl
  | cons part parts ih =>
      rw [List.map_cons, List.sum_cons, ← ih]
      exact signs_append _ _

/-- A text with blanks for its tabulators has no signs but marks that it had before. -/
theorem signs_expandTabs_le (line : Styled) : (expandTabs line).signs ≤ line.marks := by
  -- By induction on the pieces between tabulators, which have none.
  have hgo : ∀ pieces : List (List Char), (∀ piece ∈ pieces, '\t' ∉ piece) → ∀ place cell,
      ((expandTabs.go line place cell pieces).map Styled.signs).sum ≤
        (pieces.map Text.marks).sum := by
    intro pieces
    induction pieces with
    | nil => exact fun _ _ _ => Nat.le_refl _
    | cons first rest ih =>
        intro hn place cell
        have hown : Text.signs first = Text.marks first :=
          signs_eq_marks (hn first List.mem_cons_self)
        have hothers : ∀ piece ∈ rest, '\t' ∉ piece := fun piece hp =>
          hn piece (List.mem_cons_of_mem first hp)
        cases rest with
        | nil => exact hown.le
        | cons second rest =>
            have hfirst : ∀ count, ((line.part place (first ++ [' '])).extend count).signs =
                Text.marks first := by
              intro count
              have hspace : Text.signs [' '] = 0 := rfl
              show Text.signs (first ++ [' '] ++ List.replicate count ' ') = _
              rw [signs_append, signs_append, signs_replicate_of_not rfl, hspace, hown]
              rfl
            rw [expandTabs.go, List.map_cons, List.sum_cons, List.map_cons, List.sum_cons, hfirst]
            · exact Nat.add_le_add_left (ih hothers _ _) _
            · exact nofun
  rw [expandTabs]
  split
  · have hpieces := sum_countP_pieces (show isMark '\t' = false from rfl) line.text
    rw [signs_concat, Styled.marks, Text.marks, ← hpieces]
    exact hgo _ (fun piece hp hm => (mem_of_mem_pieces hp hm).2 rfl) 0 0
  · next hn => exact (signs_eq_marks fun hm => hn (List.contains_iff_mem.mpr hm)).le

/-- The lines of a text in a width have no signs but marks of the text. -/
theorem sum_signs_wrapLine_le (fold : Bool) (width : Nat) (line : Styled)
    : ((wrapLine fold width line).map Styled.signs).sum ≤ line.marks := by
  have hparts : ∀ places, (((expandTabs line).divide places).map Styled.signs).sum =
      (expandTabs line).signs := by
    intro places
    rw [Styled.signs, ← Styled.flatten_divide places (expandTabs line), signs_flatten,
      List.map_map]
    rfl
  rw [wrapLine, List.map_map]
  calc _ ≤ (((expandTabs line).divide (lineBreaks fold width (expandTabs line).text)).map
          Styled.signs).sum := by
        refine List.sum_le_sum fun part _ => ?_
        show Text.signs (trimBeyond width part).text ≤ _
        rw [trimBeyond, text_withText]
        exact signs_take_le _ _
    _ ≤ line.marks := (hparts _).trans_le (signs_expandTabs_le line)

theorem signs_cutLine_le {mark : Bool} {width : Nat} {line shown : Styled}
    (h : cutLine mark width line = .ok shown)
    : shown.signs ≤ line.signs := by
  rw [cutLine] at h
  split at h
  · exact Except.ok.inj h ▸ Nat.le_refl _
  · split at h
    · obtain ⟨taken, ht, h⟩ := exists_of_bind_eq_ok h
      obtain rfl := Except.ok.inj h
      have hmark : Text.signs ['…'] = 0 := rfl
      rw [Styled.signs, text_withText, signs_append, hmark]
      exact countP_takeCells_le rfl ht
    · obtain ⟨taken, ht, h⟩ := exists_of_bind_eq_ok h
      obtain rfl := Except.ok.inj h
      rw [Styled.signs, text_withText]
      exact countP_takeCells_le rfl ht

theorem signs_fillLine_le {width : Nat} {line shown : Styled}
    (h : fillLine width line = .ok shown)
    : shown.signs ≤ line.signs := by
  rw [fillLine] at h
  split at h
  · obtain rfl := Except.ok.inj h
    show Text.signs (line.text ++ List.replicate _ ' ') ≤ _
    rw [signs_append, signs_replicate_of_not rfl]
    exact Nat.le_refl _
  · exact signs_cutLine_le h

/-- The lines of a text between line feeds have its marks, by induction on the pieces. -/
theorem sum_marks_lines (text : Styled) : (text.lines.map Styled.marks).sum = text.marks := by
  have hgo : ∀ pieces start, ((Styled.lines.go text start pieces).map Styled.marks).sum =
      (pieces.map Text.marks).sum := by
    intro pieces
    induction pieces with
    | nil => exact fun _ => rfl
    | cons first rest ih =>
        intro start
        rw [Styled.lines.go, List.map_cons, List.sum_cons, ih, List.map_cons, List.sum_cons]
        rfl
  rw [Styled.lines]
  split
  · rw [hgo]
    exact sum_countP_pieces rfl text.text
  · exact Nat.add_zero _

theorem sum_signs_fillText_le {width : Nat} {text : Styled} {lines : List Styled}
    (h : fillText width text = .ok lines)
    : (lines.map Styled.signs).sum ≤ text.marks := by
  rw [fillText] at h
  obtain ⟨parts, hp, rfl⟩ := exists_of_map_eq_ok h
  rw [List.map_flatten, List.sum_flatten, List.map_map, ← sum_marks_lines]
  refine sum_le_of_mapM hp fun line part hpart => ?_
  obtain ⟨filled, hf, hc⟩ := exists_of_bind_eq_ok hpart
  calc (part.map Styled.signs).sum
      ≤ (filled.map Styled.signs).sum := sum_le_of_mapM hc fun _ _ => signs_cutLine_le
    _ ≤ ((wrapLine false width line).map Styled.signs).sum :=
        sum_le_of_mapM hf fun _ _ => signs_fillLine_le
    _ ≤ line.marks := sum_signs_wrapLine_le false width line

-----------------------------------------------------------------------------------------
-- Signs of rows
-----------------------------------------------------------------------------------------

/-- Texts between vertical lines have only their own signs. -/
theorem signs_barred {bar : Char} (h : isSign bar = false) (parts : List (List Char))
    : Text.signs (barred bar parts) = (parts.map Text.signs).sum := by
  have hbar : Text.signs [bar] = 0 := signs_replicate_of_not h 1
  have hparts : ((parts.intersperse [bar]).map Text.signs).sum = (parts.map Text.signs).sum := by
    cases parts with
    | nil => rfl
    | cons part parts =>
        rw [List.map_cons, sum_map_intersperse, hbar, Nat.mul_zero, Nat.add_zero, List.map_cons]
  rw [barred, List.cons_append, Text.signs_cons, h, signs_append, hbar, signs_flatten, hparts]
  exact Nat.zero_add _

namespace Line

theorem signs_append (first second : Line)
    : signs (first ++ second) = first.signs + second.signs := by
  rw [signs, List.flatten_append, Text.signs_append]
  rfl

theorem signs_cons (segment : List Char) (rest : Line)
    : signs (segment :: rest) = Text.signs segment + rest.signs := by
  rw [signs, List.flatten_cons, Text.signs_append]
  rfl

theorem signs_take_le {width : Nat} {line shown : Line} (h : line.take width = .ok shown)
    : shown.signs ≤ line.signs := by
  induction line generalizing width shown with
  | nil =>
      obtain rfl := Except.ok.inj h
      exact Nat.le_refl _
  | cons segment rest ih =>
      rw [take] at h
      rw [signs_cons]
      split at h
      · obtain ⟨more, hm, rfl⟩ := exists_of_map_eq_ok h
        rw [signs_cons]
        exact Nat.add_le_add_left (ih hm) _
      · obtain ⟨taken, ht, rfl⟩ := exists_of_map_eq_ok h
        rw [signs_cons]
        exact Nat.add_le_add (countP_takeCells_le rfl ht) (Nat.zero_le _)

theorem signs_fit_le {width : Nat} {line shown : Line} (h : line.fit width = .ok shown)
    : shown.signs ≤ line.signs := by
  rw [fit] at h
  split at h
  · exact Except.ok.inj h ▸ Nat.le_refl _
  · exact signs_take_le h

theorem signs_shape_le {width : Nat} {line shown : Line} (h : line.shape width = .ok shown)
    : shown.signs ≤ line.signs := by
  rw [shape] at h
  split at h
  · obtain rfl := Except.ok.inj h
    rw [signs_append, signs_cons, signs_replicate_of_not rfl]
    exact Nat.le_refl _
  · exact signs_fit_le h

/-- Parts between vertical lines have only their own signs. -/
theorem signs_barred {bar : Char} (h : isSign bar = false) (parts : List Line)
    : signs ([bar] :: (parts.intersperse [[bar]]).flatten ++ [[bar]]) = (parts.map signs).sum := by
  rw [signs, flatten_barred, Display.signs_barred h, List.map_map]
  rfl

end Line

theorem sum_signs_cellLines_le {width : Nat} {text : Styled} {block : List Line}
    (h : cellLines width text = .ok block)
    : (block.map Line.signs).sum ≤ text.marks := by
  rw [cellLines] at h
  split at h
  · exact Except.ok.inj h ▸ Nat.zero_le _
  · obtain ⟨filled, hf, h⟩ := exists_of_bind_eq_ok h
    obtain ⟨lines, hl, h⟩ := exists_of_bind_eq_ok h
    obtain ⟨shaped, hs, h⟩ := exists_of_bind_eq_ok h
    have hspace : Text.signs [' '] = 0 := rfl
    have hsegments : lines.map Line.signs = filled.map Styled.signs := by
      obtain ⟨_, -, rfl⟩ := exists_of_map_eq_ok hl
      rw [List.map_map]
      refine List.map_congr_left fun line _ => ?_
      show Text.signs line.segments.flatten = _
      rw [Styled.flatten_segments]
      rfl
    calc (block.map Line.signs).sum
        ≤ (shaped.map Line.signs).sum := by
          refine sum_le_of_mapM (eq_ok_of_mapError h) fun line shown hshown => ?_
          refine (Line.signs_shape_le hshown).trans ?_
          rw [Line.signs_append, Line.signs_cons, Line.signs_cons, hspace]
          exact Nat.le_of_eq (by simp [Line.signs, Text.signs])
      _ ≤ (lines.map Line.signs).sum :=
          sum_le_of_mapM (eq_ok_of_mapError hs) fun _ _ => Line.signs_shape_le
      _ ≤ text.marks := by
          rw [hsegments]
          exact sum_signs_fillText_le (eq_ok_of_mapError hf)

/-- Blank lines have no signs. -/
theorem signs_blank (width : Nat) : Line.signs [List.replicate width ' '] = 0 := by
  rw [Line.signs, List.flatten_singleton, signs_replicate_of_not rfl]

theorem sum_signs_fill (stand : Stand) (width height : Nat) (block : List Line)
    : ((stand.fill width height block).map Line.signs).sum = (block.map Line.signs).sum := by
  have hblank : ((List.replicate (height - block.length) [List.replicate width ' ']).map
      Line.signs).sum = 0 := by
    rw [List.map_replicate, signs_blank]
    exact List.sum_eq_zero fun _ hm => List.eq_of_mem_replicate hm
  cases stand with
  | top => rw [Stand.fill, List.map_append, List.sum_append, hblank, Nat.add_zero]
  | bottom => rw [Stand.fill, List.map_append, List.sum_append, hblank, Nat.zero_add]

theorem sum_signs_rowLines_le {stand : Stand} {bar : Char} (hb : isSign bar = false)
    {widths : List Nat} {texts : List Styled} {lines : List Line}
    (h : rowLines stand bar widths texts = .ok lines)
    : (lines.map Line.signs).sum ≤ (texts.map Styled.marks).sum := by
  rw [rowLines_eq] at h
  obtain ⟨blocks, hblocks, rfl⟩ := exists_of_map_eq_ok h
  have hcells : (blocks.map fun block => (block.2.map Line.signs).sum).sum ≤
      ((widths.zip texts).map fun cell => cell.2.marks).sum := by
    refine sum_le_of_mapM hblocks fun cell block hcell => ?_
    obtain ⟨found, hf, rfl⟩ := exists_of_map_eq_ok hcell
    exact sum_signs_cellLines_le hf
  have hrows : ∀ height, ((joined stand bar height blocks).map Line.signs).sum ≤
      (blocks.map fun block => (block.2.map Line.signs).sum).sum := by
    intro height
    rw [joined, List.map_map]
    calc _ = ((List.range height).map fun i => (blocks.map fun block => Line.signs
            (((stand.fill block.1 height block.2)[i]?).getD [List.replicate block.1 ' '])).sum).sum := by
          congr 1
          refine List.map_congr_left fun i _ => ?_
          dsimp only [Function.comp_apply]
          rw [Line.signs_barred hb, List.map_map]
          rfl
      _ = (blocks.map fun block => ((List.range height).map fun i => Line.signs
            (((stand.fill block.1 height block.2)[i]?).getD [List.replicate block.1 ' '])).sum).sum :=
          sum_range_map _ blocks height
      _ ≤ (blocks.map fun block => (block.2.map Line.signs).sum).sum := by
          refine List.sum_le_sum fun block _ => ?_
          rw [← sum_signs_fill stand block.1 height block.2]
          exact sum_range_getD_le (signs_blank block.1) _ height
  exact (hrows _).trans (hcells.trans (sum_map_zip_le Styled.marks widths texts))

-----------------------------------------------------------------------------------------
-- Signs of tables
-----------------------------------------------------------------------------------------

theorem signs_rule {left fill joint right : Char}
    (h : [left, fill, joint, right].any isSign = false) (widths : List Nat)
    : (rule left fill joint right widths).signs = 0 :=
  signs_eq_zero fun c hc =>
    Bool.eq_false_iff.mpr (List.any_eq_false.mp h c (mem_of_mem_rule hc))

/-- The lines of a table have no more signs than its texts. -/
theorem sum_signs_tableLines_le {widths : List Nat} {columns : List (List Styled)}
    {lines : List Line} (h : tableLines widths columns = .ok lines)
    : (lines.map Line.signs).sum ≤
        (columns.map fun texts => (texts.map Styled.marks).sum).sum := by
  rw [tableLines] at h
  obtain ⟨head, hhead, h⟩ := exists_of_bind_eq_ok h
  obtain ⟨below, hbelow, h⟩ := exists_of_bind_eq_ok h
  obtain rfl := Except.ok.inj h
  have hrules : ∀ {left fill joint right : Char},
      [left, fill, joint, right].any isSign = false →
      ([rule left fill joint right widths].map Line.signs).sum = 0 := by
    intro left fill joint right hnone
    rw [List.map_singleton, List.sum_singleton, signs_rule hnone]
  have hfirst := sum_signs_rowLines_le (by decide) hhead
  have hothers := @sum_le_of_mapM _ _ _ _
    (fun i => ((columns.map fun texts => (texts[i + 1]?).getD {}).map Styled.marks).sum)
    (fun lines => (lines.map Line.signs).sum) _ _ hbelow
    fun i lines hlines => sum_signs_rowLines_le (by decide) hlines
  have hrows : ∀ count, ((columns.map fun texts => (texts[0]?).getD {}).map Styled.marks).sum
        + ((List.range count).map fun i =>
          ((columns.map fun texts => (texts[i + 1]?).getD {}).map Styled.marks).sum).sum ≤
      (columns.map fun texts => (texts.map Styled.marks).sum).sum := by
    intro count
    calc _ = ((List.range (count + 1)).map fun i =>
            (columns.map fun texts => Styled.marks ((texts[i]?).getD {})).sum).sum := by
          rw [List.range_succ_eq_map, List.map_cons, List.sum_cons, List.map_map]
          simp only [List.map_map]
          rfl
      _ = (columns.map fun texts => ((List.range (count + 1)).map fun i =>
            Styled.marks ((texts[i]?).getD {})).sum).sum :=
          sum_range_map (fun (texts : List Styled) i => Styled.marks ((texts[i]?).getD {})) columns _
      _ ≤ (columns.map fun texts => (texts.map Styled.marks).sum).sum :=
          List.sum_le_sum fun texts _ =>
            sum_range_getD_le (show Styled.marks {} = 0 from rfl) texts _
  rw [List.map_append, List.map_append, List.map_append, List.map_append, List.sum_append,
    List.sum_append, List.sum_append, List.sum_append, hrules (by decide), hrules (by decide),
    hrules (by decide), List.map_flatten, List.sum_flatten, List.map_map]
  have hall := (Nat.add_le_add hfirst hothers).trans (hrows _)
  have hbelow : (below.map fun lines => (lines.map Line.signs).sum) =
      below.map (List.sum ∘ List.map Line.signs) :=
    rfl
  rw [hbelow] at hall
  omega

theorem signs_writeLines_le (width : Nat) (lines : List Line)
    : Text.signs (writeLines width lines).text ≤ (lines.map Line.signs).sum := by
  induction lines with
  | nil => exact Nat.le_refl _
  | cons line rest ih =>
      rw [writeLines, List.map_cons, List.sum_cons]
      cases hf : line.fit width with
      | error problem => exact Nat.zero_le _
      | ok shown =>
          have hfeed : isSign '\n' = false := rfl
          dsimp only
          rw [signs_append, Text.signs_cons, hfeed]
          exact Nat.add_le_add (Line.signs_fit_le hf) ((Nat.zero_add _).trans_le ih)

/-- A text without marks is free of markup. -/
theorem isFree_of_no_marks {text : List Char} (h : Text.marks text = 0) : Markup.IsFree text := by
  have hnone : ∀ c ∈ text, isMark c = false := fun c hc =>
    Bool.eq_false_iff.mpr (List.countP_eq_zero.mp h c hc)
  have hkept : Markup.shownPart text = text :=
    Markup.loses_shownPart.eq_of_le (h.trans_le (Nat.zero_le _))
  refine ⟨fun place => ?_, (Markup.shownPart_eq_self_iff text).mp hkept⟩
  cases hd : text.drop place with
  | nil => rfl
  | cons c rest =>
      refine Markup.tag?_of_ne ?_ rest
      rintro rfl
      have hmem : '[' ∈ text := List.mem_of_mem_drop (hd ▸ List.mem_cons_self)
      exact absurd (hnone '[' hmem) (by decide)

/-- A text as it stands in a cell has no marks but signs of the text, and as many only if the text
stands there as it is.
-/
def Reads (text : String) (styled : Styled) : Prop :=
  styled.marks ≤ Text.signs text.toList
    ∧ (Text.signs text.toList ≤ styled.marks → IsVerbatim text.toList)

theorem Reads.of_render {text : String} {styled : Styled}
    (h : Markup.render text.toList = .ok styled)
    : Reads text styled := by
  obtain ⟨hle, hfree⟩ := Markup.marks_render h
  have hsigns := marks_le_signs text.toList
  refine ⟨hle.trans hsigns, fun hall => ⟨hfree (hsigns.trans hall), ?_⟩⟩
  exact no_tab_of_signs_le (hall.trans hle)

/-- Only a text without signs stands as it is where nothing is shown. -/
theorem Reads.nothing (text : String) : Reads text {} := by
  refine ⟨Nat.zero_le _, fun hall => ⟨isFree_of_no_marks ?_, no_tab_of_signs_le ?_⟩⟩
  · exact Nat.eq_zero_of_le_zero ((marks_le_signs text.toList).trans hall)
  · exact hall.trans (Nat.zero_le _)

theorem reads_readCells {most : Nat} {columns : List (List String)} {found : List (List Styled)}
    (h : readCells most columns = .ok found)
    : List.Forall₂ (List.Forall₂ Reads) columns found := by
  rw [readCells] at h
  split at h
  · obtain rfl := Except.ok.inj h
    rw [List.forall₂_map_right_iff]
    refine List.forall₂_same.mpr fun texts _ => ?_
    rw [List.forall₂_map_right_iff]
    exact List.forall₂_same.mpr fun text _ => .nothing text
  · refine (forall₂_of_mapM h).imp fun texts others ho => ?_
    exact (forall₂_of_mapM ho).imp fun text styled => .of_render

/-- If a table has all signs of its texts, these stand there as they are. -/
theorem isVerbatim_of_signs_table {width : Nat} {headings : List String} {rows : List (List String)}
    {written : Written} (h : table width headings rows = .ok written) (hw : width ≠ 0)
    (hs : ((tableColumns headings rows).map fun texts =>
      (texts.map fun text => Text.signs text.toList).sum).sum ≤ Text.signs written.text)
    : ∀ column ∈ tableColumns headings rows, ∀ text ∈ column, IsVerbatim text.toList := by
  rw [table, if_neg hw] at h
  obtain ⟨found, hfound, h⟩ := exists_of_bind_eq_ok h
  obtain ⟨lines, hlines, h⟩ := exists_of_bind_eq_ok h
  obtain rfl := Except.ok.inj h
  have hle := (signs_writeLines_le width lines).trans (sum_signs_tableLines_le hlines)
  refine forall_of_sum_le (reads_readCells (eq_ok_of_mapError hfound)) (fun texts others hr => ?_)
    (fun texts others hr hsum => ?_) (hs.trans hle)
  · exact sum_le_of_forall₂ hr fun _ _ hreads => hreads.1
  · exact forall_of_sum_le hr (fun _ _ hreads => hreads.1) (fun _ _ hreads => hreads.2) hsum

-----------------------------------------------------------------------------------------
-- Signs of boxes
-----------------------------------------------------------------------------------------

theorem signs_padded (width : Nat) (line : List Char)
    : Text.signs (padded width line) = Text.signs line := by
  have hspace : Text.signs [' '] = 0 := rfl
  have hfilled : Text.signs (filled width line) = Text.signs line := by
    rw [filled]
    split
    · rw [signs_append, signs_replicate_of_not rfl]
      rfl
    · rfl
  rw [padded, List.cons_append, Text.signs_cons, signs_append, hfilled, hspace]
  exact Nat.zero_add _

/-- The lines of a text in a column have its signs. -/
theorem sum_signs_block (stand : Stand) (width height : Nat) (text : List Char)
    : ((stand.block width height text).map Text.signs).sum = Text.signs text := by
  have hown : (((pieces '\n' text).map (padded width)).map Text.signs).sum = Text.signs text := by
    rw [Text.signs, ← sum_countP_pieces (show isSign '\n' = false from rfl) text, List.map_map]
    exact congrArg List.sum (List.map_congr_left fun line _ => signs_padded width line)
  have hblank : ∀ count, ((List.replicate count (padded width [])).map Text.signs).sum = 0 := by
    intro count
    rw [List.map_replicate, signs_padded]
    exact List.sum_eq_zero fun _ hm => List.eq_of_mem_replicate hm
  cases stand with
  | top => rw [Stand.block, List.map_append, List.sum_append, hblank, hown, Nat.add_zero]
  | bottom => rw [Stand.block, List.map_append, List.sum_append, hblank, hown, Nat.zero_add]

/-- The lines of a row have the signs of its texts. -/
theorem sum_signs_boxRow {bar : Char} (hb : isSign bar = false) (stand : Stand) {widths : List Nat}
    {texts : List (List Char)} (hl : widths.length = texts.length)
    : ((boxRow stand bar widths texts).map Text.signs).sum = (texts.map Text.signs).sum := by
  have hpadded : ∀ width, Text.signs (padded width []) = 0 := fun width => signs_padded width []
  have hrow : ∀ height, (∀ cell ∈ widths.zip texts, (pieces '\n' cell.2).length ≤ height) →
      ((List.range height).map fun i => ((widths.zip texts).map fun cell =>
        Text.signs (((stand.block cell.1 height cell.2)[i]?).getD (padded cell.1 []))).sum).sum =
      (texts.map Text.signs).sum := by
    intro height hh
    calc _ = ((widths.zip texts).map fun cell => ((List.range height).map fun i =>
            Text.signs (((stand.block cell.1 height cell.2)[i]?).getD (padded cell.1 []))).sum).sum := by
          rw [sum_range_map]
      _ = ((widths.zip texts).map fun cell => Text.signs cell.2).sum := by
          congr 1
          refine List.map_congr_left fun cell hc => ?_
          rw [sum_range_getD (hpadded cell.1), sum_signs_block]
          rw [length_block]
          exact Nat.max_le.mpr ⟨hh cell hc, Nat.le_refl _⟩
      _ = (texts.map Text.signs).sum := by
          rw [← List.map_snd_zip hl.ge, List.map_map, List.map_snd_zip hl.ge]
          rfl
  rw [boxRow, List.map_map, ← hrow]
  · congr 1
    refine List.map_congr_left fun i _ => ?_
    dsimp only [Function.comp_apply]
    rw [signs_barred hb, List.map_map]
    rfl
  · intro cell hc
    exact le_foldl_max_of_mem (List.mem_map.mpr ⟨cell, hc, rfl⟩)

/-- The texts of a rectangular table amount to the same column by column and row by row. -/
theorem sum_tableColumns {m : String → Nat} (hm : m "" = 0) {headings : List String}
    {rows : List (List String)} (h : IsRectangular headings rows)
    : ((tableColumns headings rows).map fun texts => (texts.map m).sum).sum =
        ((headings :: rows).map fun texts => (texts.map m).sum).sum := by
  rw [tableColumns_eq h, List.map_map]
  calc _ = ((List.range headings.length).map fun i =>
          ((headings :: rows).map fun texts => m ((texts[i]?).getD "")).sum).sum := by
        congr 1
        refine List.map_congr_left fun i _ => ?_
        dsimp only [Function.comp_apply]
        rw [List.map_map]
        rfl
    _ = ((headings :: rows).map fun texts => ((List.range headings.length).map fun i =>
          m ((texts[i]?).getD "")).sum).sum :=
        sum_range_map (fun (texts : List String) i => m ((texts[i]?).getD "")) _ _
    _ = _ := by
        congr 1
        refine List.map_congr_left fun texts ht => ?_
        exact sum_range_getD hm (h.length_eq texts ht).le

/-- The box of a table has all signs of its texts. -/
theorem signs_box {headings : List String} {rows : List (List String)}
    (h : IsRectangular headings rows) {widths : List Nat} (hw : widths.length = headings.length)
    : ((tableColumns headings rows).map fun texts =>
          (texts.map fun text => Text.signs text.toList).sum).sum ≤
        Text.signs (box widths (headings.map String.toList)
          (rows.map fun row => row.map String.toList)) := by
  have hlines : ∀ lines : List (List Char),
      Text.signs (lines.flatMap (· ++ ['\n'])) = (lines.map Text.signs).sum := by
    intro lines
    rw [List.flatMap_def, signs_flatten, List.map_map]
    exact congrArg List.sum (List.map_congr_left fun line _ => signs_append line ['\n'])
  have hrow : ∀ {bar : Char}, isSign bar = false → ∀ stand, ∀ line ∈ headings :: rows,
      ((boxRow stand bar widths (line.map String.toList)).map Text.signs).sum =
        (line.map fun text => Text.signs text.toList).sum := by
    intro bar hb stand line hl
    have hlength : widths.length = (line.map String.toList).length := by
      rw [hw, List.length_map, h.length_eq line hl]
    rw [sum_signs_boxRow hb stand hlength, List.map_map]
    rfl
  have hrows : (((rows.map fun row => row.map String.toList).flatMap
        (boxRow .top '│' widths)).map Text.signs).sum =
      (rows.map fun row => (row.map fun text => Text.signs text.toList).sum).sum := by
    rw [List.flatMap_map, List.map_flatMap, List.flatMap_def, List.sum_flatten, List.map_map]
    congr 1
    refine List.map_congr_left fun row hr => ?_
    exact hrow (by decide) .top row (List.mem_cons_of_mem _ hr)
  rw [sum_tableColumns (show Text.signs "".toList = 0 from rfl) h, List.map_cons, List.sum_cons,
    ← hrow (show isSign '┃' = false by decide) .bottom headings List.mem_cons_self, ← hrows, box,
    hlines]
  simp only [List.map_append, List.sum_append]
  omega

-----------------------------------------------------------------------------------------
-- Shown tables
-----------------------------------------------------------------------------------------

/-- A table whose texts fit into their columns is shown as its box, on a terminal that is wide
enough for that, exactly if its texts stand there as they are.
-/
theorem table_eq_box_iff {headings : List String} {rows : List (List String)}
    (h : IsRectangular headings rows) {width : Nat}
    (hw : boxWidth (contentWidths headings rows) ≤ width) (hf : FitsColumns headings rows)
    : table width headings rows =
          .ok ⟨box (contentWidths headings rows) (headings.map String.toList)
            (rows.map fun row => row.map String.toList), none⟩
        ↔ ∀ line ∈ headings :: rows, ∀ text ∈ line, IsVerbatim text.toList := by
  have hwide : width ≠ 0 := by
    rw [boxWidth] at hw
    omega
  constructor
  · intro he
    rw [← forall_mem_tableColumns h]
    exact isVerbatim_of_signs_table he hwide (signs_box h (length_contentWidths h))
  · exact table_of_fits h hw hf

end Display

end SqlShell
