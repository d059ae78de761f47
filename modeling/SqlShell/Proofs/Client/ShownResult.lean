import Mathlib
import SqlShell.Client.Result
import SqlShell.Proofs.Display.LaidOutSigns

/-! How a result is shown on a terminal: as the box of its columns and values, and below it the
number of rows. The texts of the box are read as markup, so that it is shown as it is only if they
are free of it.
-/

namespace SqlShell

open Act Display

-----------------------------------------------------------------------------------------
-- Row counts
-----------------------------------------------------------------------------------------

namespace StatementResult

variable {result : StatementResult} {job : Job} {columns : Nat} {texts : List (List String)}

/-- The notice of a number of rows consists of digits and a few other characters. -/
theorem not_mem_countNotice {c : Char} (hd : c.isDigit = false) (hn : c ∉ " rows in set".toList)
    (count : Nat)
    : c ∉ (countNotice count).toList := by
  have hpart : ∀ {part : String}, part.toList.all " rows in set".toList.contains = true →
      c ∉ part.toList := fun hall hm =>
    hn (List.contains_iff_mem.mp (List.all_eq_true.mp hall c hm))
  have hnumber : c ∉ (toString count).toList := by
    intro hm
    rw [show toString count = String.ofList (Nat.toDigits 10 count) from Nat.repr_eq_ofList_toDigits,
      String.toList_ofList] at hm
    exact Bool.false_ne_true (hd.symm.trans (Nat.isDigit_of_mem_toDigits (by decide) (by decide) hm))
  have hnoun : c ∉ (if count = 1 then "row" else "rows").toList := by
    split
    · exact hpart (by decide)
    · exact hpart (by decide)
  simp only [countNotice, String.toList_append, List.mem_append]
  rintro (((hm | hm) | hm) | hm)
  · exact hnumber hm
  · exact hpart (by decide) hm
  · exact hnoun hm
  · exact hpart (by decide) hm

/-- The number of rows is told on every terminal. -/
theorem notice_countNotice (count : Nat) (ho : job.output = .laidOut columns)
    : Console.notice .out (countNotice count) job =
        (.ok (), job.noteAll [.shownOn columns .out (.plain (countNotice count).toList)]) := by
  refine Console.notice_onTerminal ?_ (Emoji.hasNoNames_of_not_mem ?_) .out ho
  · rw [Bool.eq_false_iff, ne_eq, List.contains_iff_mem]
    exact not_mem_countNotice (by decide) (by decide) count
  · exact not_mem_countNotice (by decide) (by decide) count

-----------------------------------------------------------------------------------------
-- Results
-----------------------------------------------------------------------------------------

/-- The box of a table, in columns that are as wide as their contents. -/
def boxText (headings : List String) (rows : List (List String)) : String :=
  String.ofList (box (contentWidths headings rows) (headings.map String.toList)
    (rows.map fun row => row.map String.toList))

/-- The box of a table shows every line of each text. -/
theorem infix_boxText {headings : List String} {rows : List (List String)}
    (h : IsRectangular headings rows) {line : List String} (hl : line ∈ headings :: rows)
    {text : String} (ht : text ∈ line) {piece : List Char}
    (hp : piece ∈ Text.pieces '\n' text.toList)
    : piece <:+: (boxText headings rows).toList := by
  have hlines : headings.map String.toList :: rows.map (fun row => row.map String.toList) =
      (headings :: rows).map fun line => line.map String.toList :=
    rfl
  rw [boxText, String.toList_ofList]
  refine infix_box ?_ ?_ (List.mem_map.mpr ⟨text, ht, rfl⟩) hp
  · rw [hlines]
    intro texts hm
    obtain ⟨own, ho, rfl⟩ := List.mem_map.mp hm
    rw [length_contentWidths h, List.length_map, h.length_eq own ho]
  · rw [hlines]
    exact List.mem_map.mpr ⟨line, hl, rfl⟩

/-- The events of a result that is shown as it is. -/
def shownEvents (result : StatementResult) (texts : List (List String)) (columns : Nat)
    : List Event :=
  [.written .out (boxText result.columns texts),
    .shownOn columns .out (.plain (countNotice result.rows.length).toList)]

/-- Rows of values make rows of as many texts. -/
theorem isRectangular_of_mapM (hc : result.columns ≠ [])
    (hr : ∀ row ∈ result.rows, row.length = result.columns.length)
    (hv : result.rows.mapM (fun row => row.mapM cellText) = .ok texts)
    : IsRectangular result.columns texts := by
  refine ⟨hc, forall_of_forall₂ (forall₂_of_mapM hv) fun row hm line hl => ?_⟩
  exact (forall₂_of_mapM hl).length_eq.symm.trans (hr row hm)

/-- A result is shown as the table of its texts and the number of its rows. -/
theorem shown_eq (ho : job.output = .laidOut columns) (ht : job.lacks "table" = false)
    (hc : result.columns ≠ [])
    (hv : result.rows.mapM (fun row => row.mapM cellText) = .ok texts)
    : result.shown job = (do
        Console.display .out (Display.table columns result.columns texts)
        Console.notice .out (countNotice result.rows.length)) job := by
  have hquery : result.isQuery = true := by
    rw [isQuery, Bool.not_eq_true', List.isEmpty_eq_false_iff]
    exact hc
  have htables : Console.requireTables job = (.ok (), job) := by
    rw [Console.requireTables, state_bind, ht]
    rfl
  have htexts : ofResult (result.rows.mapM fun row => row.mapM cellText) job = (.ok texts, job) := by
    rw [ofResult_apply, hv]
  have htable : Console.table result.columns texts job =
      Console.display .out (Display.table columns result.columns texts) job := by
    rw [Console.table, state_bind, ho]
  rw [shown, hquery, if_neg (by decide), bind_of_ok htables, bind_of_ok htexts, bind_apply,
    bind_apply, htable]

/-- What is written and a notice after it are the events of a result exactly if all is written that
is to be.
-/
theorem display_then_notice_iff (ho : job.output = .laidOut columns) (count : Nat)
    (shown : Except Problem Written) (text : List Char)
    : (do
          Console.display .out shown
          Console.notice .out (countNotice count)) job =
          (.ok (), job.noteAll [.written .out (String.ofList text),
            .shownOn columns .out (.plain (countNotice count).toList)])
        ↔ shown = .ok ⟨text, none⟩ := by
  have hwritten : ∀ text, (do
      Console.display .out (.ok ⟨text, none⟩)
      Console.notice .out (countNotice count)) job =
      (.ok (), job.noteAll [.written .out (String.ofList text),
        .shownOn columns .out (.plain (countNotice count).toList)]) := by
    intro text
    have hnotice := notice_countNotice count
      (show (job.noteAll [.written .out (String.ofList text)]).output = .laidOut columns from ho)
    show Console.notice .out (countNotice count)
      (job.noteAll [.written .out (String.ofList text)]) = _
    rw [hnotice, Job.noteAll, Job.noteAll, Job.noteAll, List.append_assoc]
    rfl
  constructor
  · intro h
    rcases shown with problem | ⟨found, _ | problem⟩
    · exact nomatch congrArg Prod.fst h
    · rw [hwritten found] at h
      have htrace := List.append_cancel_left (congrArg (fun ended => ended.2.trace) h)
      have hfound := (Event.written.inj (List.cons.inj htrace).1).2
      rw [String.ofList_injective hfound]
    · exact nomatch congrArg Prod.fst h
  · rintro rfl
    exact hwritten text

/-- A result whose texts fit into their columns is shown as it is, on a terminal that is wide enough
for its table, exactly if its texts are free of markup and have no tabulators. What it is shown as
holds every line of each text.

Texts whose characters all take cells, but for line feeds, fit into columns with room for any content
(`FitsColumns.of_charCells`). Other texts may lack it. A line is measured between ends of all kinds, but
shown between line feeds, so that one with a form feed or a line separator may be too long for its column.
So may a line that has more characters than its column has cells, by joiners or marks that take none, if
it ends in a blank. And in a column without any room only the empty text fits.
-/
theorem shown_onTerminal (ho : job.output = .laidOut columns) (ht : job.lacks "table" = false)
    (hc : result.columns ≠ [])
    (hr : ∀ row ∈ result.rows, row.length = result.columns.length)
    (hv : result.rows.mapM (fun row => row.mapM cellText) = .ok texts)
    (hw : boxWidth (contentWidths result.columns texts) ≤ columns)
    (hf : FitsColumns result.columns texts)
    : (result.shown job = (.ok (), job.noteAll (shownEvents result texts columns))
          ↔ ∀ line ∈ result.columns :: texts, ∀ text ∈ line, IsVerbatim text.toList)
        ∧ ∀ line ∈ result.columns :: texts, ∀ text ∈ line, ∀ piece ∈ Text.pieces '\n' text.toList,
          piece <:+: (boxText result.columns texts).toList := by
  have hrect := isRectangular_of_mapM hc hr hv
  refine ⟨?_, fun line hl text ht piece hp => infix_boxText hrect hl ht hp⟩
  rw [← table_eq_box_iff hrect hw hf, shown_eq ho ht hc hv]
  exact display_then_notice_iff ho result.rows.length _ _

/-- A result with brackets that start no tag, texts of two lines and wide characters. -/
def notes : StatementResult :=
  { columns := ["id", "note [1]"], rows := [[.int 7, .text "[1, 2]\n東"], [.null, .bytes [171]]] }

/-- The texts of the values of the notes. -/
def noteTexts : List (List String) :=
  [["7", "[1, 2]\n東"], ["NULL", "ab"]]

theorem shown_onTerminal_of_notes
    : ({ terminal := .laidOut 20 } : Job).output = .laidOut 20
        ∧ ({ terminal := .laidOut 20 } : Job).lacks "table" = false
        ∧ notes.columns ≠ []
        ∧ (∀ row ∈ notes.rows, row.length = notes.columns.length)
        ∧ notes.rows.mapM (fun row => row.mapM cellText) = .ok noteTexts
        ∧ boxWidth (contentWidths notes.columns noteTexts) ≤ 20
        ∧ FitsColumns notes.columns noteTexts
        ∧ (notes.shown { terminal := .laidOut 20 } =
              (.ok (), Job.noteAll { terminal := .laidOut 20 } (shownEvents notes noteTexts 20))
            ↔ ∀ line ∈ notes.columns :: noteTexts, ∀ text ∈ line, IsVerbatim text.toList)
        ∧ ∀ line ∈ notes.columns :: noteTexts, ∀ text ∈ line,
          ∀ piece ∈ Text.pieces '\n' text.toList, piece <:+: (boxText notes.columns noteTexts).toList := by
  have htexts : notes.rows.mapM (fun row => row.mapM cellText) = .ok noteTexts := by
    decide +kernel
  have hwide : boxWidth (contentWidths notes.columns noteTexts) ≤ 20 := by
    decide +kernel
  have hfits : FitsColumns notes.columns noteTexts :=
    .of_charCells ⟨by decide, by decide⟩ (by decide +kernel) (by decide +kernel)
  exact ⟨rfl, rfl, by decide, by decide, htexts, hwide, hfits,
    shown_onTerminal rfl rfl (by decide) (by decide) htexts hwide hfits⟩

/-- Tags are not shown, so that the text between them stands alone in its cell. -/
theorem shown_hides_tags
    : (({ columns := ["a"], rows := [[.text "[b]x[/b]"]] } : StatementResult).shown
          { terminal := .laidOut 80 }).2.trace[0]? =
            some (.written .out "┏━━━┓\n┃ a ┃\n┡━━━┩\n│ x │\n└───┘\n")
        ∧ cellText (.text "[b]x[/b]") = .ok "[b]x[/b]"
        ∧ "┏━━━┓\n┃ a ┃\n┡━━━┩\n│ x │\n└───┘\n" ≠ boxText ["a"] [["[b]x[/b]"]] := by
  refine ⟨?_, rfl, by decide +kernel⟩
  cbv

end StatementResult

end SqlShell
