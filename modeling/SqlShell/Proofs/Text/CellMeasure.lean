import Mathlib.Algebra.GroupWithZero.Nat
import SqlShell.Display.Wrap
import SqlShell.Proofs.Text.BlankTrimming

/-! How many cells the parts of a text take beside each other. The start of a text takes no more
cells than the text, and neither do its words together: a text that fits is broken nowhere.
-/

namespace SqlShell

namespace Text

-----------------------------------------------------------------------------------------
-- Starts and ends
-----------------------------------------------------------------------------------------

/-- What is shown before a text can only make it take more cells, by induction on the text. -/
theorem go_none_le (shown : Option Char) (joined : Bool) (text : List Char)
    : cells.go none joined text ≤ cells.go shown joined text := by
  induction text generalizing shown joined with
  | nil => exact Nat.le_refl _
  | cons c rest ih =>
      rw [cells.go, cells.go]
      cases joined with
      | true => exact ih shown false
      | false =>
          rw [if_neg Bool.false_ne_true, if_neg Bool.false_ne_true]
          split
          · exact ih shown true
          split
          · exact Nat.add_le_add_right (Nat.zero_le _) _
          dsimp only
          split
          · exact Nat.add_le_add_left (ih shown false) _
          · exact Nat.le_refl _

theorem go_append_le (shown : Option Char) (joined : Bool) (text more : List Char)
    : cells.go shown joined text ≤ cells.go shown joined (text ++ more) := by
  induction text generalizing shown joined with
  | nil => exact Nat.zero_le _
  | cons c rest ih =>
      rw [List.cons_append, cells.go, cells.go]
      split
      · exact ih ..
      split
      · exact ih ..
      split
      · exact Nat.add_le_add_left (ih ..) _
      · exact Nat.add_le_add_left (ih ..) _

/-- The start of a text takes no more cells than the text. -/
theorem cells_le_append (text more : List Char) : cells text ≤ cells (text ++ more) :=
  go_append_le none false text more

/-- A text that is no joiner at its end takes its own cells beside another one, by induction on it.
-/
theorem go_concat_append_le {last : Char} (h : last ≠ joiner) (shown : Option Char) (joined : Bool)
    (text more : List Char)
    : cells.go shown joined (text ++ [last]) + cells more ≤
        cells.go shown joined (text ++ last :: more) := by
  induction text generalizing shown joined with
  | nil =>
      rw [List.nil_append, List.nil_append]
      cases joined with
      | true => exact (Nat.zero_add _).trans_le (go_none_le shown false more)
      | false =>
          simp only [cells.go, Bool.false_eq_true, if_false, if_neg h]
          split
          · exact Nat.le_refl _
          · exact Nat.add_le_add_left (go_none_le _ false more) _
  | cons c rest ih =>
      rw [List.cons_append, List.cons_append, cells.go, cells.go]
      split
      · exact ih ..
      split
      · exact ih ..
      split
      · rw [Nat.add_assoc]
        exact Nat.add_le_add_left (ih ..) _
      · dsimp only
        rw [Nat.add_assoc]
        exact Nat.add_le_add_left (ih ..) _

theorem cells_concat_append_le {last : Char} (h : last ≠ joiner) (text more : List Char)
    : cells (text ++ [last]) + cells more ≤ cells (text ++ last :: more) :=
  go_concat_append_le h none false text more

theorem isBlank_joiner : isBlank joiner = false := by
  decide

/-- A text without trailing blanks takes no more cells than the text. -/
theorem cells_trimEnd_le (text : List Char) : cells (trimEnd text) ≤ cells text := by
  obtain ⟨blanks, -, he⟩ := exists_trimEnd text
  conv_rhs => rw [he]
  exact cells_le_append _ _

end Text

namespace Display

open Text

-----------------------------------------------------------------------------------------
-- Words
-----------------------------------------------------------------------------------------

/-- The words of a text take no more cells than the text, by induction on what is left of it. -/
theorem sum_cells_lineWords (text : List Char)
    : ((lineWords text).map cells).sum ≤ cells text := by
  suffices hgo : ∀ word seen, ((lineWords.go text word seen).map cells).sum ≤
      cells (word.reverse ++ text) from hgo [] false
  induction text with
  | nil =>
      intro word seen
      rw [lineWords.go]
      split
      · simp
      · exact Nat.zero_le _
  | cons c rest ih =>
      intro word seen
      have hnext : ∀ seen, ((lineWords.go rest (c :: word) seen).map cells).sum ≤
          cells (word.reverse ++ c :: rest) := by
        intro seen
        have hle := ih (c :: word) seen
        rwa [List.reverse_cons, List.append_assoc] at hle
      rw [lineWords.go]
      split
      · exact hnext seen
      split
      · next hblank =>
          rw [Bool.and_eq_true] at hblank
          cases word with
          | nil => exact absurd hblank.2 Bool.false_ne_true
          | cons last word =>
              have hlast : last ≠ joiner := by
                rintro rfl
                exact absurd hblank.2 (by simp [isBlank_joiner])
              rw [List.map_cons, List.sum_cons, List.reverse_cons, List.append_assoc]
              exact (Nat.add_le_add_left (ih [c] true) _).trans
                (cells_concat_append_le hlast word.reverse (c :: rest))
      · exact hnext true

/-- Words that fit on the last line all go there, by induction on them. -/
theorem breaks_foldl_add (fold : Bool) {width : Nat} {state : Breaking} {words : List (List Char)}
    (h : state.used + (words.map cells).sum ≤ width)
    : (words.foldl (Breaking.add fold width) state).breaks = state.breaks := by
  induction words generalizing state with
  | nil => rfl
  | cons word rest ih =>
      rw [List.map_cons, List.sum_cons, ← Nat.add_assoc] at h
      have hword := cells_trimEnd_le word
      have hadd : state.add fold width word =
          { state with place := state.place + word.length, used := state.used + cells word } := by
        rw [Breaking.add]
        dsimp only
        rw [if_pos (by omega)]
      rw [List.foldl_cons, hadd]
      exact ih h

/-- A text that fits is broken nowhere. -/
theorem lineBreaks_of_fits (fold : Bool) {width : Nat} {text : List Char} (h : cells text ≤ width)
    : lineBreaks fold width text = [] := by
  have hwords := sum_cells_lineWords text
  rw [lineBreaks, breaks_foldl_add fold (by show 0 + _ ≤ _; omega)]
  rfl

end Display

end SqlShell
