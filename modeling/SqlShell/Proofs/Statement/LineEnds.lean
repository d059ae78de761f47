import SqlShell.Proofs.Statement.SingleStatements
import SqlShell.Proofs.Text.JoinedLines

/-! What the scan of a line makes of blanks and of a terminator at the ends of the line: blanks change
nothing, and a terminator outside a comment is code.
-/

namespace SqlShell.Statement

open SqlShell.Text

-----------------------------------------------------------------------------------------
-- Blanks at the ends of lines
-----------------------------------------------------------------------------------------

/-- A character that is no quote leaves a literal open or closed. -/
theorem nextQuote_of_noQuote {c : Char} (h : Quote.ofChar? c = none) (quote : Option Quote)
    : nextQuote quote c = quote := by
  cases quote with
  | none => exact h
  | some open_ =>
      rw [nextQuote, if_neg]
      rintro rfl
      rw [Quote.ofChar?_char] at h
      exact absurd h (Option.some_ne_none open_)

theorem foldl_nextQuote_of_noQuote {text : List Char} (h : ∀ c ∈ text, Quote.ofChar? c = none)
    (quote : Option Quote)
    : text.foldl nextQuote quote = quote := by
  induction text with
  | nil => rfl
  | cons c rest ih =>
      obtain ⟨hc, hrest⟩ := List.forall_mem_cons.mp h
      rw [List.foldl_cons, nextQuote_of_noQuote hc, ih hrest]

/-- A line whose code is blank leaves a literal open or closed. -/
theorem scan_snd_of_blank {quote : Option Quote} {line : List Char}
    (h : (scan quote line).1 = [])
    : (scan quote line).2 = quote := by
  have hblank : ∀ c ∈ (beforeComment quote line).1, isBlank c = true :=
    (trimEnd_eq_nil_iff _).mp h
  exact (beforeComment_snd quote line).trans
    (foldl_nextQuote_of_noQuote (noQuote_of_blank hblank) quote)

/-- Blanks are all code, in a literal and outside of them. -/
theorem beforeComment_of_blank {blanks : List Char} (h : ∀ c ∈ blanks, isBlank c = true)
    (quote : Option Quote)
    : beforeComment quote blanks = (blanks, quote) := by
  induction blanks with
  | nil => rw [beforeComment]
  | cons c rest ih =>
      obtain ⟨hc, hrest⟩ := List.forall_mem_cons.mp h
      obtain ⟨hq, hd⟩ := code_of_blank hc
      rw [beforeComment.eq_3 _ _ _ (fun _ _ he _ => hd he), nextQuote_of_noQuote hq, ih hrest]

/-- Blanks at the end of a line add nothing but blanks to what precedes its comment, by induction on
the scan.
-/
theorem exists_beforeComment_append {blanks : List Char} (hb : ∀ c ∈ blanks, isBlank c = true)
    (quote : Option Quote) (line : List Char)
    : ∃ more, (∀ c ∈ more, isBlank c = true)
        ∧ beforeComment quote (line ++ blanks) =
          ((beforeComment quote line).1 ++ more, (beforeComment quote line).2) := by
  fun_induction beforeComment quote line with
  | case1 quote => exact ⟨blanks, hb, beforeComment_of_blank hb quote⟩
  | case2 tail =>
      refine ⟨[], List.forall_mem_nil _, ?_⟩
      rw [List.cons_append, List.cons_append, beforeComment, List.append_nil]
  | case3 quote c rest hn kept after he ih =>
      obtain ⟨more, hm, hs⟩ := ih
      rw [he] at hs
      have hstart : ∀ tail, quote = none → c = '-' → rest ++ blanks = '-' :: tail → False := by
        intro tail hq hc ht
        cases rest with
        | nil =>
            have hdash : '-' ∈ blanks := by
              rw [← List.nil_append blanks, ht]
              exact List.mem_cons_self
            exact absurd (hb '-' hdash) (by decide)
        | cons d rest => exact hn rest hq hc (by rw [(List.cons.inj ht).1])
      refine ⟨more, hm, ?_⟩
      rw [List.cons_append, beforeComment.eq_3 _ _ _ hstart, hs]
      rfl

/-- Trimming the end of a line changes nothing for the scan. -/
theorem scan_trimEnd (quote : Option Quote) (line : List Char)
    : scan quote (trimEnd line) = scan quote line := by
  obtain ⟨blanks, hb, he⟩ := exists_trimEnd line
  obtain ⟨more, hm, hs⟩ := exists_beforeComment_append hb quote (trimEnd line)
  conv => rhs; rw [he, scan, hs]
  rw [scan]
  exact Prod.ext (trimEnd_append_of_blank _ hm).symm rfl

/-- Trimming the end of a line does not change whether it ends a statement. -/
theorem endsStatement_trimEnd (quote : Option Quote) (line : List Char)
    : endsStatement quote (trimEnd line) = endsStatement quote line := by
  rw [endsStatement, scan_trimEnd, endsStatement]

/-- Blanks at the start of a line do not change whether it is only a comment. -/
theorem isCommentLine_append_of_blank {blanks : List Char} (h : ∀ c ∈ blanks, isBlank c = true)
    (line : List Char)
    : isCommentLine (blanks ++ line) = isCommentLine line := by
  rw [isCommentLine, trimStart, List.dropWhile_append_of_pos h, isCommentLine, trimStart]

/-- A line is only a comment if its first part is. -/
theorem isCommentLine_append {line : List Char} (h : isCommentLine line = true) (more : List Char)
    : isCommentLine (line ++ more) = true := by
  obtain ⟨blanks, rest, hb, rfl⟩ := exists_of_isCommentLine h
  rw [List.append_assoc, isCommentLine_append_of_blank hb]
  rfl

/-- A line that is not left out as a comment is not left out without its last part either. -/
theorem not_passed_of_append {quote : Option Quote} {line more : List Char}
    (h : (quote.isNone && isCommentLine (line ++ more)) = false)
    : (quote.isNone && isCommentLine line) = false := by
  cases hc : isCommentLine line with
  | false => exact Bool.and_false _
  | true =>
      rw [isCommentLine_append hc] at h
      exact h

/-- Blanks at the start of a line outside literals do not change whether it ends a statement. -/
theorem endsStatement_append_of_blank {blanks : List Char} (h : ∀ c ∈ blanks, isBlank c = true)
    (line : List Char)
    : (scan none (blanks ++ line)).2 = (scan none line).2
      ∧ endsStatement none (blanks ++ line) = endsStatement none line := by
  have hs : scan none (blanks ++ line) =
      (trimEnd (blanks ++ (beforeComment none line).1), (beforeComment none line).2) := by
    rw [scan, beforeComment_append_of_blank h]
  have he : endsWithTerminator (trimEnd (blanks ++ (beforeComment none line).1)) =
      endsWithTerminator (trimEnd (beforeComment none line).1) := by
    rw [trimEnd_append]
    split
    · next hb => rw [(trimEnd_eq_nil_iff blanks).mpr h, hb]
    · next hb =>
        rw [endsWithTerminator, List.getLast?_append_of_ne_nil _ hb, endsWithTerminator]
  refine ⟨by rw [hs, scan], ?_⟩
  rw [endsStatement, hs, endsStatement, scan]
  exact congrArg (_ && ·) he

-----------------------------------------------------------------------------------------
-- Terminators at the ends of lines
-----------------------------------------------------------------------------------------

/-- A terminator is no quote, so it leaves a literal open or closed. -/
theorem nextQuote_terminator (quote : Option Quote) : nextQuote quote ';' = quote :=
  nextQuote_of_noQuote (by simp [Quote.ofChar?]) quote

/-- A terminator alone is all code. -/
theorem beforeComment_terminator (quote : Option Quote)
    : beforeComment quote [';'] = ([';'], quote) := by
  rw [beforeComment.eq_3 _ _ _ (by simp), nextQuote_terminator, beforeComment]

/-- A terminator at the end of a line belongs to the comment of the line, or the line has none and
all of it is code. By induction on the scan.
-/
theorem beforeComment_append_terminator (quote : Option Quote) (line : List Char)
    : beforeComment quote (line ++ [';']) = beforeComment quote line
      ∨ (beforeComment quote line).1 = line
        ∧ beforeComment quote (line ++ [';']) = (line ++ [';'], (beforeComment quote line).2) := by
  fun_induction beforeComment quote line with
  | case1 quote =>
      exact Or.inr ⟨rfl, beforeComment_terminator quote⟩
  | case2 tail => exact Or.inl (by rw [List.cons_append, List.cons_append, beforeComment])
  | case3 quote c rest hn kept after he ih =>
      have hstart : ∀ tail, quote = none → c = '-' → rest ++ [';'] = '-' :: tail → False := by
        intro tail hq hc ht
        cases rest with
        | nil => exact absurd (List.cons.inj ht).1 (by decide)
        | cons d rest => exact hn rest hq hc (by rw [(List.cons.inj ht).1])
      rw [List.cons_append, beforeComment.eq_3 _ _ _ hstart]
      rw [he] at ih
      rcases ih with hs | ⟨rfl, hs⟩
      · exact Or.inl (by rw [hs])
      · exact Or.inr ⟨rfl, by rw [hs]⟩

/-- A line that ends no statement still ends none without a terminator at its end, and leaves the
same literal open.
-/
theorem endsStatement_of_append_terminator {quote : Option Quote} {line : List Char}
    (h : endsStatement quote (line ++ [';']) = false)
    : endsStatement quote line = false
      ∧ (scan quote line).2 = (scan quote (line ++ [';'])).2 := by
  rcases beforeComment_append_terminator quote line with hs | ⟨hkept, hs⟩
  · have hscan : scan quote (line ++ [';']) = scan quote line := by rw [scan, hs, scan]
    exact ⟨by rw [← h, endsStatement, endsStatement, hscan], by rw [hscan]⟩
  · have hscan : scan quote (line ++ [';']) = (line ++ [';'], (beforeComment quote line).2) := by
      rw [scan, hs]
      exact Prod.ext (trimEnd_concat (by decide) line) rfl
    have hend : endsWithTerminator (line ++ [';']) = true := by
      rw [endsWithTerminator, List.getLast?_concat]
      rfl
    have hopen : (beforeComment quote line).2.isNone = false := by
      rw [endsStatement, hscan] at h
      simpa [hend] using h
    refine ⟨?_, by rw [hscan, scan]⟩
    rw [endsStatement, scan]
    simp [hopen]

/-- The code of a line that ends a statement is code in front of a terminator, outside literals. -/
theorem exists_code_of_endsStatement {quote : Option Quote} {line : List Char}
    (h : endsStatement quote line = true)
    : ∃ code, (scan quote line).1 = code ++ [';']
        ∧ beforeComment quote code = (code, none)
        ∧ code <+: line := by
  obtain ⟨hstate, hends⟩ := endsStatement_iff.mp h
  have hlast : (scan quote line).1.getLast? = some ';' := by
    simpa only [endsWithTerminator, beq_iff_eq] using hends
  obtain ⟨code, hcode⟩ := List.getLast?_eq_some_iff.mp hlast
  obtain ⟨blanks, hb, hkept⟩ := exists_trimEnd (beforeComment quote line).1
  obtain ⟨comment, hline, _⟩ := beforeComment_append quote line
  have hscan : trimEnd (beforeComment quote line).1 = code ++ [';'] := hcode
  rw [hscan] at hkept
  have hbegin : code <+: (beforeComment quote line).1 :=
    ⟨[';'] ++ blanks, by rw [hkept, List.append_assoc]⟩
  have hwhole : (beforeComment quote code).1 = code := beforeComment_of_prefix hbegin
  refine ⟨code, hcode, Prod.ext hwhole ?_, hbegin.trans ⟨comment, hline.symm⟩⟩
  -- Neither the terminator nor the blanks after it are quotes.
  have hquote : (code ++ [';'] ++ blanks).foldl nextQuote quote = code.foldl nextQuote quote := by
    rw [List.foldl_append, foldl_nextQuote_of_noQuote (noQuote_of_blank hb), List.foldl_concat,
      nextQuote_terminator]
  have hnone : (beforeComment quote line).2 = none := hstate
  rw [beforeComment_snd, hwhole, ← hquote, ← hkept, ← beforeComment_snd, hnone]

end SqlShell.Statement
