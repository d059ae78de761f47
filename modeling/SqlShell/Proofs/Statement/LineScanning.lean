import SqlShell.Proofs.Text.BlankTrimming
import SqlShell.Statement.Split

/-! What the scan of a single line yields: for blank lines, for lines that are only a comment, and
for lines that end a statement.
-/

namespace SqlShell.Statement

open SqlShell.Text

/-- A blank opens no literal and is no dash, by the ranges of blanks. -/
theorem code_of_blank {c : Char} (h : isBlank c = true)
    : Quote.ofChar? c = none ∧ c ≠ '-' := by
  refine ⟨?_, ?_⟩
  · rw [Quote.ofChar?, if_neg, if_neg]
    · rintro rfl
      exact absurd h (by decide)
    · rintro rfl
      exact absurd h (by decide)
  · rintro rfl
    exact absurd h (by decide)

/-- Blanks at the start of a line stay in front of what is read after them, by induction. -/
theorem beforeComment_append_of_blank {blanks : List Char} (h : ∀ c ∈ blanks, isBlank c = true)
    (line : List Char)
    : beforeComment none (blanks ++ line) =
        (blanks ++ (beforeComment none line).1, (beforeComment none line).2) := by
  induction blanks with
  | nil => rfl
  | cons c rest ih =>
      obtain ⟨hq, hd⟩ := code_of_blank (h c List.mem_cons_self)
      have hrest := ih fun d hm => h d (List.mem_cons_of_mem c hm)
      rw [List.cons_append, beforeComment.eq_3 _ _ _ (fun _ _ hc _ => hd hc), nextQuote, hq, hrest]
      rfl

/-- A blank line has no code and opens no literal. -/
theorem scan_of_blank {line : List Char} (h : ∀ c ∈ line, isBlank c = true)
    : scan none line = ([], none) := by
  have hb := beforeComment_append_of_blank h []
  have ht : trimEnd line = [] := trimEnd_append_of_blank [] h
  rw [List.append_nil, beforeComment, List.append_nil] at hb
  rw [scan, hb]
  exact Prod.ext ht rfl

/-- A line that is only a comment is blanks, two dashes and any other characters. -/
theorem exists_of_isCommentLine {line : List Char} (h : isCommentLine line = true)
    : ∃ blanks rest,
        (∀ c ∈ blanks, isBlank c = true) ∧ line = blanks ++ '-' :: '-' :: rest := by
  obtain ⟨blanks, hb, he⟩ := exists_trimStart line
  obtain ⟨rest, hr⟩ := List.isPrefixOf_iff_prefix.mp h
  exact ⟨blanks, rest, hb, by rw [he, ← hr]; rfl⟩

/-- A line that is only a comment has no code and opens no literal. -/
theorem scan_of_isCommentLine {line : List Char} (h : isCommentLine line = true)
    : scan none line = ([], none) := by
  obtain ⟨blanks, rest, hb, rfl⟩ := exists_of_isCommentLine h
  have ht : trimEnd blanks = [] := trimEnd_append_of_blank [] hb
  rw [scan, beforeComment_append_of_blank hb, beforeComment, List.append_nil]
  exact Prod.ext ht rfl

/-- A line ends a statement exactly if no literal is open at its end and its code ends with the
terminator.
-/
theorem endsStatement_iff {quote : Option Quote} {line : List Char}
    : endsStatement quote line = true
      ↔ (scan quote line).2 = none ∧ endsWithTerminator (scan quote line).1 = true := by
  rw [endsStatement, Bool.and_eq_true, Option.isNone_iff_eq_none]

/-- A line without code ends no statement. -/
theorem endsStatement_of_scan_nil {line : List Char} (h : scan none line = ([], none))
    : endsStatement none line = false := by
  rw [endsStatement, h]
  rfl

/-- A line that is passed over stands outside literals, has no code and opens no literal. -/
theorem scan_of_passed {quote : Option Quote} {line : List Char}
    (h : (quote.isNone && isCommentLine line) = true)
    : quote = none ∧ scan none line = ([], none) := by
  obtain ⟨hq, hl⟩ := (Bool.and_eq_true _ _).mp h
  exact ⟨Option.isNone_iff_eq_none.mp hq, scan_of_isCommentLine hl⟩

/-- The three ways in which a line is taken in: a line that is only a comment is passed over, a
line that ends a statement completes the lines collected so far, and any other line is collected.
-/
theorem splitRest_cons (quote : Option Quote) (collected : List (List Char)) (line : List Char)
    (lines : List (List Char))
    : splitRest quote collected (line :: lines) =
        if quote.isNone && isCommentLine line then
          splitRest none collected lines
        else if endsStatement quote line then
          (ofLines? (collected ++ [(scan quote line).1])).toList ++ splitRest none [] lines
        else
          splitRest (scan quote line).2 (collected ++ [line]) lines := by
  rw [splitRest]
  by_cases hc : (quote.isNone && isCommentLine line) = true
  · obtain ⟨rfl, hs⟩ := scan_of_passed hc
    simp only [if_pos hc, hs]
  · simp only [if_neg hc]
    rfl

end SqlShell.Statement
