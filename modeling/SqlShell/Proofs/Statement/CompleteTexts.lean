import SqlShell.Proofs.Statement.LineScanning
import SqlShell.Proofs.Text.LineSeams

/-! A complete text stands on its own: whatever is written after it on a new line is read as if
it stood alone, by the test for completeness and by the division into statements.
-/

namespace SqlShell.Statement

open SqlShell.Text

-----------------------------------------------------------------------------------------
-- Complete lists of lines
-----------------------------------------------------------------------------------------

/-- Only lines decide whether a list of lines that is not empty is complete; the answer before
them does not matter.
-/
theorem completeRest_congr {lines : List (List Char)} (h : lines ≠ [])
    (quote : Option Quote) (complete other : Bool)
    : completeRest quote complete lines = completeRest quote other lines := by
  cases lines with
  | nil => exact absurd rfl h
  | cons line rest => rfl

/-- Lines after complete ones are tested as if they stood alone, by induction on the complete ones:
the last of these leaves no literal open.
-/
theorem completeRest_append {quote : Option Quote} {complete : Bool}
    {lines more : List (List Char)} (h : completeRest quote complete lines = true)
    (hl : lines ≠ []) (hm : more ≠ [])
    : completeRest quote complete (lines ++ more) = completeRest none false more := by
  induction lines generalizing quote complete with
  | nil => exact absurd rfl hl
  | cons line rest ih =>
      rw [List.cons_append, completeRest]
      rw [completeRest] at h
      by_cases hr : rest = []
      · subst hr
        have hq : (scan quote line).2 = none := (endsStatement_iff.mp h).1
        rw [List.nil_append, hq]
        exact completeRest_congr hm none _ _
      · exact ih h hr

/-- Nothing collected makes no statement. -/
theorem ofLines?_nil : ofLines? [] = none := rfl

/-- Lines after complete ones are divided as if they stood alone, by induction on the complete
ones: the last of these leaves nothing collected.
-/
theorem splitRest_append {quote : Option Quote} {complete : Bool}
    {lines : List (List Char)} (h : completeRest quote complete lines = true) (hl : lines ≠ [])
    (collected more : List (List Char))
    : splitRest quote collected (lines ++ more) =
        splitRest quote collected lines ++ splitRest none [] more := by
  induction lines generalizing quote complete collected with
  | nil => exact absurd rfl hl
  | cons line rest ih =>
      rw [completeRest] at h
      rw [List.cons_append, splitRest_cons, splitRest_cons]
      by_cases hr : rest = []
      · subst hr
        have he : endsStatement quote line = true := h
        have hc : (quote.isNone && isCommentLine line) = false := by
          -- A line that is only a comment has no code, so it would end no statement.
          by_contra hc
          obtain ⟨rfl, hs⟩ := scan_of_passed (eq_true_of_ne_false hc)
          rw [endsStatement_of_scan_nil hs] at he
          exact absurd he (by decide)
        simp [hc, he, splitRest, ofLines?_nil]
      · by_cases hc : (quote.isNone && isCommentLine line) = true
        · obtain ⟨rfl, hs⟩ := scan_of_passed hc
          rw [hs] at h
          simp only [if_pos hc]
          exact ih h hr collected
        · simp only [if_neg hc]
          by_cases he : endsStatement quote line = true
          · rw [(endsStatement_iff.mp he).1] at h
            simp only [if_pos he, List.append_assoc]
            rw [ih h hr]
          · simp only [if_neg he]
            exact ih h hr _

-----------------------------------------------------------------------------------------
-- Blank lines
-----------------------------------------------------------------------------------------

/-- Blank lines before the collected ones add nothing to a statement, since its text is trimmed. -/
theorem ofLines?_append_of_blank {blanks : List (List Char)}
    (h : ∀ line ∈ blanks, ∀ c ∈ line, isBlank c = true) (lines : List (List Char))
    : ofLines? (blanks ++ lines) = ofLines? lines := by
  rw [ofLines?, trim_joinLines_append h, ofLines?]

/-- Blank lines that were collected first add nothing to the statements, by induction on the lines
that are left.
-/
theorem splitRest_append_of_blank {blanks : List (List Char)}
    (h : ∀ line ∈ blanks, ∀ c ∈ line, isBlank c = true) (quote : Option Quote)
    (collected lines : List (List Char))
    : splitRest quote (blanks ++ collected) lines = splitRest quote collected lines := by
  induction lines generalizing quote collected with
  | nil => rw [splitRest, splitRest, ofLines?_append_of_blank h]
  | cons line rest ih =>
      rw [splitRest_cons, splitRest_cons, List.append_assoc, List.append_assoc,
        ofLines?_append_of_blank h, ih, ih]

/-- A blank line at the start changes no statement. -/
theorem splitRest_blank_cons {line : List Char} (h : ∀ c ∈ line, isBlank c = true)
    (lines : List (List Char))
    : splitRest none [] (line :: lines) = splitRest none [] lines := by
  have hs := scan_of_blank h
  have hb : ∀ l ∈ [line], ∀ c ∈ l, isBlank c = true := by
    simpa using h
  rw [splitRest_cons, endsStatement_of_scan_nil hs, hs]
  split
  · rfl
  · exact splitRest_append_of_blank hb none [] lines

/-- Blank lines at the start change no statement, by induction. -/
theorem splitRest_blanks_append {blanks : List (List Char)}
    (h : ∀ line ∈ blanks, ∀ c ∈ line, isBlank c = true) (lines : List (List Char))
    : splitRest none [] (blanks ++ lines) = splitRest none [] lines := by
  induction blanks with
  | nil => rfl
  | cons line rest ih =>
      rw [List.cons_append, splitRest_blank_cons (h line List.mem_cons_self)]
      exact ih fun l hl => h l (List.mem_cons_of_mem line hl)

/-- Blank lines before other ones do not make these complete, by induction. -/
theorem completeRest_blanks_append {blanks : List (List Char)}
    (h : ∀ line ∈ blanks, ∀ c ∈ line, isBlank c = true) (lines : List (List Char))
    : completeRest none false (blanks ++ lines) = completeRest none false lines := by
  induction blanks with
  | nil => rfl
  | cons line rest ih =>
      have hs := scan_of_blank (h line List.mem_cons_self)
      rw [List.cons_append, completeRest, endsStatement_of_scan_nil hs, hs]
      exact ih fun l hl => h l (List.mem_cons_of_mem line hl)

-----------------------------------------------------------------------------------------
-- Texts
-----------------------------------------------------------------------------------------

/-- The lines of a blank text are blank. -/
theorem blank_of_mem_splitLines {text : List Char} (h : ∀ c ∈ text, isBlank c = true)
    : ∀ line ∈ splitLines text, ∀ c ∈ line, isBlank c = true :=
  fun _ hl _ hc => h _ (mem_of_mem_splitLines hl hc)

/-- The empty line that a line feed may start is blank. -/
theorem blank_of_gap {gap : List (List Char)} (h : gap = [] ∨ gap = [[]])
    : ∀ line ∈ gap, ∀ c ∈ line, isBlank c = true := by
  rcases h with rfl | rfl <;> simp

/-- A blank text on lines of its own changes no statement of what follows. -/
theorem split_blank_append {blank : List Char} (h : ∀ c ∈ blank, isBlank c = true)
    (more : List Char)
    : split (blank ++ '\n' :: more) = split more := by
  obtain ⟨gap, hg, he⟩ := splitLines_append_newline blank
  rw [split, he, List.append_assoc, splitRest_blanks_append (blank_of_mem_splitLines h),
    splitRest_blanks_append (blank_of_gap hg), split]

/-- A blank text on lines of its own does not change whether what follows is complete. -/
theorem isComplete_blank_append {blank : List Char} (h : ∀ c ∈ blank, isBlank c = true)
    (more : List Char)
    : isComplete (blank ++ '\n' :: more) = isComplete more := by
  obtain ⟨gap, hg, he⟩ := splitLines_append_newline blank
  rw [isComplete, he, List.append_assoc, completeRest_blanks_append (blank_of_mem_splitLines h),
    completeRest_blanks_append (blank_of_gap hg), isComplete]

/-- A blank text is not complete. -/
theorem isComplete_of_blank {blank : List Char} (h : ∀ c ∈ blank, isBlank c = true)
    : isComplete blank = false := by
  have hc := completeRest_blanks_append (blank_of_mem_splitLines h) []
  rw [List.append_nil] at hc
  rw [isComplete, hc]
  rfl

/-- A complete text has lines, since it is not complete without any. -/
theorem splitLines_ne_nil_of_isComplete {text : List Char} (h : isComplete text = true)
    : splitLines text ≠ [] := by
  intro he
  rw [isComplete, he] at h
  exact absurd h (by decide)

/-- What follows a complete text on a new line is divided into statements as if it stood alone. -/
theorem split_append {text : List Char} (h : isComplete text = true) (more : List Char)
    : split (text ++ '\n' :: more) = split text ++ split more := by
  obtain ⟨gap, hg, he⟩ := splitLines_append_newline text
  rw [split, he, List.append_assoc, splitRest_append h (splitLines_ne_nil_of_isComplete h),
    splitRest_blanks_append (blank_of_gap hg), split, split]

/-- What follows a complete text on a new line is tested for completeness as if it stood alone. -/
theorem isComplete_append {text more : List Char} (h : isComplete text = true) (hm : more ≠ [])
    : isComplete (text ++ '\n' :: more) = isComplete more := by
  obtain ⟨gap, hg, he⟩ := splitLines_append_newline text
  have hlines : gap ++ splitLines more ≠ [] := by
    simp [splitLines_ne_nil hm]
  rw [isComplete, he, List.append_assoc,
    completeRest_append h (splitLines_ne_nil_of_isComplete h) hlines,
    completeRest_blanks_append (blank_of_gap hg), isComplete]

/-- Complete texts and statements have the same boundaries: what follows a complete text on a new
line is divided and tested as if it stood alone, whatever characters meet at the seam.
-/
theorem complete_text_stands_alone {text : List Char} (h : isComplete text = true)
    (more : List Char)
    : split (text ++ '\n' :: more) = split text ++ split more
      ∧ (more ≠ [] → isComplete (text ++ '\n' :: more) = isComplete more) :=
  ⟨split_append h more, isComplete_append h⟩

/-- A literal over two lines, a comment with a quote and a carriage return at the seam. -/
theorem complete_text_stands_alone_at_carriage_return
    : isComplete "SELECT 'a;\n--b'; -- it's\r".toList = true
      ∧ "\n'x;\ny';".toList ≠ []
      ∧ split ("SELECT 'a;\n--b'; -- it's\r".toList ++ '\n' :: "\n'x;\ny';".toList) =
          split "SELECT 'a;\n--b'; -- it's\r".toList ++ split "\n'x;\ny';".toList
      ∧ isComplete ("SELECT 'a;\n--b'; -- it's\r".toList ++ '\n' :: "\n'x;\ny';".toList) =
          isComplete "\n'x;\ny';".toList := by
  have hc : isComplete "SELECT 'a;\n--b'; -- it's\r".toList = true := by decide +kernel
  have hm : "\n'x;\ny';".toList ≠ [] := by decide +kernel
  obtain ⟨hs, hi⟩ := complete_text_stands_alone hc "\n'x;\ny';".toList
  exact ⟨hc, hm, hs, hi hm⟩

end SqlShell.Statement
