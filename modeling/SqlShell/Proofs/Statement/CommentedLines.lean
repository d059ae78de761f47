import SqlShell.Proofs.Statement.GatheredLines

/-! Comments change no statement. A line that is only a comment may stand between any two lines
where no literal is open, and a comment may follow the code of any line that ends a statement.
-/

namespace SqlShell.Statement

open SqlShell.Text

/-- A comment that fits on one line: two dashes after blanks, and any text. -/
structure Comment where
  blanks : List Char
  text : List Char
  blank : ∀ c ∈ blanks, isBlank c = true
  oneLine : ∀ c ∈ blanks ++ text, isLineEnd c = false

/-- The characters of a comment. -/
def Comment.chars (comment : Comment) : List Char :=
  comment.blanks ++ '-' :: '-' :: comment.text

theorem Comment.not_isLineEnd (comment : Comment) : ∀ c ∈ comment.chars, isLineEnd c = false := by
  intro c hc
  simp only [chars, List.mem_append, List.mem_cons] at hc
  rcases hc with hblank | rfl | rfl | htext
  · exact comment.oneLine c (List.mem_append_left _ hblank)
  · rfl
  · rfl
  · exact comment.oneLine c (List.mem_append_right _ htext)

/-- A comment alone on a line makes it one that is only a comment. -/
theorem Comment.isCommentLine (comment : Comment) : isCommentLine comment.chars = true := by
  rw [chars, isCommentLine_append_of_blank comment.blank]
  rfl

/-- Outside literals nothing but the blanks of a comment is read. -/
theorem Comment.beforeComment_chars (comment : Comment)
    : beforeComment none comment.chars = (comment.blanks, none) := by
  rw [chars, beforeComment_append_of_blank comment.blank, beforeComment, List.append_nil]

-----------------------------------------------------------------------------------------
-- Lines with more behind them
-----------------------------------------------------------------------------------------

/-- What stands behind a line belongs to the comment of the line, or the line has none and the scan
goes on behind it. No two dashes may meet behind a line without a comment. By induction on the scan.
-/
theorem beforeComment_append_cases (quote : Option Quote) {line more : List Char}
    (h : (beforeComment quote line).1 = line → line.getLast? = some '-' → more.head? ≠ some '-')
    : beforeComment quote (line ++ more) = beforeComment quote line
      ∨ (beforeComment quote line).1 = line
        ∧ beforeComment quote (line ++ more) =
          (line ++ (beforeComment (beforeComment quote line).2 more).1,
            (beforeComment (beforeComment quote line).2 more).2) := by
  fun_induction beforeComment quote line with
  | case1 quote => exact Or.inr ⟨rfl, rfl⟩
  | case2 tail => exact Or.inl (by rw [List.cons_append, List.cons_append, beforeComment])
  | case3 quote c rest hn kept after he ih =>
      rw [he] at ih
      have hrest : kept = rest → rest.getLast? = some '-' → more.head? ≠ some '-' := by
        intro hkept hl
        apply h (congrArg (c :: ·) hkept)
        cases rest with
        | nil => simp at hl
        | cons d rest => simpa using hl
      have hstart : ∀ tail, quote = none → c = '-' → rest ++ more = '-' :: tail → False := by
        intro tail hq hc ht
        cases rest with
        | nil =>
            rw [beforeComment] at he
            rw [List.nil_append] at ht
            exact h (by rw [(Prod.mk.inj he).1]) (by rw [hc]; rfl) (by rw [ht]; rfl)
        | cons d rest => exact hn rest hq hc (by rw [(List.cons.inj ht).1])
      rw [List.cons_append, beforeComment.eq_3 _ _ _ hstart]
      rcases ih hrest with hs | ⟨rfl, hs⟩
      · exact Or.inl (by rw [hs])
      · exact Or.inr ⟨rfl, by rw [hs]; rfl⟩

theorem scan_eq (quote : Option Quote) (line : List Char)
    : scan quote line = (trimEnd (beforeComment quote line).1, (beforeComment quote line).2) :=
  rfl

/-- A line without a comment that ends a statement ends with the terminator or a blank, so no dash
is its last character.
-/
theorem getLast?_ne_dash_of_endsStatement {quote : Option Quote} {line : List Char}
    (h : endsStatement quote line = true) (hall : (beforeComment quote line).1 = line)
    : line.getLast? ≠ some '-' := by
  obtain ⟨code, hcode, -, -⟩ := exists_code_of_endsStatement h
  have hkept : trimEnd line = code ++ [';'] := by
    rw [← hcode, scan_eq, hall]
  obtain ⟨blanks, hblanks, hline⟩ := exists_trimEnd line
  intro hlast
  rw [hline, hkept] at hlast
  rcases List.eq_nil_or_concat' blanks with rfl | ⟨front, c, rfl⟩
  · rw [List.append_nil, List.getLast?_concat] at hlast
    exact absurd (Option.some.inj hlast) (by decide)
  · rw [← List.append_assoc, List.getLast?_concat] at hlast
    obtain rfl := Option.some.inj hlast
    exact absurd (hblanks '-' (by simp)) (by decide)

/-- A comment behind a line that ends a statement changes nothing for the scan. -/
theorem scan_append_comment {quote : Option Quote} {line : List Char}
    (h : endsStatement quote line = true) (comment : Comment)
    : scan quote (line ++ comment.chars) = scan quote line := by
  have hnone : (beforeComment quote line).2 = none := (endsStatement_iff.mp h).1
  have hseam : (beforeComment quote line).1 = line → line.getLast? = some '-' →
      comment.chars.head? ≠ some '-' :=
    fun hall hlast => absurd hlast (getLast?_ne_dash_of_endsStatement h hall)
  rcases beforeComment_append_cases quote hseam with hs | ⟨hall, hs⟩
  · rw [scan_eq, hs, ← scan_eq]
  · rw [scan_eq, hs, hnone, comment.beforeComment_chars, scan_eq, hall, hnone]
    exact Prod.ext (trimEnd_append_of_blank line comment.blank) rfl

-----------------------------------------------------------------------------------------
-- The statements of joined lines
-----------------------------------------------------------------------------------------

/-- An empty line at the end adds nothing to a statement, since its text is trimmed. -/
theorem ofLines?_concat_nil (lines : List (List Char)) : ofLines? (lines ++ [[]]) = ofLines? lines := by
  have ht : trim (joinLines (lines ++ [[]])) = trim (joinLines lines) := by
    by_cases hne : lines = []
    · rw [hne]
      rfl
    · rw [joinLines_concat_eq, List.append_nil, writtenLines_eq_joinLines hne,
        trim_eq_trimStart_trimEnd, trimEnd_append_of_blank _ (by simp; rfl),
        ← trim_eq_trimStart_trimEnd]
  rw [ofLines?, ht, ofLines?]

/-- An empty line at the end changes no statement, by induction on the lines before it. -/
theorem splitRest_concat_nil (quote : Option Quote) (collected lines : List (List Char))
    : splitRest quote collected (lines ++ [[]]) = splitRest quote collected lines := by
  induction lines generalizing quote collected with
  | nil =>
      have hempty : Gathered quote [[]] := by
        refine ⟨Bool.and_false _, ?_, trivial⟩
        cases quote <;> rfl
      rw [List.nil_append, splitRest_of_gathered hempty, splitRest, splitRest, ofLines?_concat_nil]
  | cons line rest ih =>
      rw [List.cons_append, splitRest_cons, splitRest_cons, ih, ih, ih]

/-- The statements of joined lines are those of the lines. Only an empty line at the end is lost
when the joined text is cut.
-/
theorem split_joinLines {lines : List (List Char)} (h : ∀ line ∈ lines, ∀ c ∈ line, isLineEnd c = false)
    : split (joinLines lines) = splitRest none [] lines := by
  rcases List.eq_nil_or_concat' lines with rfl | ⟨front, last, rfl⟩
  · rfl
  · obtain ⟨hfront, hlast⟩ := List.forall_mem_append.mp h
    by_cases hne : last = []
    · have hcut := splitLines_writtenLines_append hfront []
      rw [hne, joinLines_concat_eq, split, hcut, splitRest_concat_nil]
      exact congrArg _ (List.append_nil front)
    · rw [split, splitLines_joinLines hfront (List.forall_mem_singleton.mp hlast) hne]

/-- Lines are taken in alike behind the same lines if they are behind any that may be collected. By
induction on the lines before them.
-/
theorem splitRest_append_congr {quote : Option Quote} {lines more others : List (List Char)}
    (h : ∀ collected, splitRest (openAfter quote lines) collected more =
      splitRest (openAfter quote lines) collected others)
    (collected : List (List Char))
    : splitRest quote collected (lines ++ more) = splitRest quote collected (lines ++ others) := by
  induction lines generalizing quote collected with
  | nil => exact h collected
  | cons line rest ih =>
      rw [List.cons_append, List.cons_append, splitRest_cons, splitRest_cons]
      by_cases hpassed : (quote.isNone && isCommentLine line) = true
      · obtain ⟨rfl, hs⟩ := scan_of_passed hpassed
        have hstate : openAfter none (line :: rest) = openAfter none rest := by
          show openAfter (scan none line).2 rest = _
          rw [hs]
        rw [hstate] at h
        rw [if_pos hpassed, if_pos hpassed, ih h]
      · rw [if_neg hpassed, if_neg hpassed]
        by_cases hends : endsStatement quote line = true
        · have hstate : openAfter quote (line :: rest) = openAfter none rest := by
            show openAfter (scan quote line).2 rest = _
            rw [(endsStatement_iff.mp hends).1]
          rw [hstate] at h
          rw [if_pos hends, if_pos hends, ih h]
        · rw [if_neg hends, if_neg hends]
          exact ih h _

-----------------------------------------------------------------------------------------
-- Comments in a script
-----------------------------------------------------------------------------------------

/-- Comments do not change what is executed: neither a line that is only a comment, put in where no
literal is open, nor a comment behind a line that ends a statement changes the statements of a
script.
-/
theorem split_with_comment {lines more : List (List Char)}
    (h : ∀ line ∈ lines ++ more, ∀ c ∈ line, isLineEnd c = false) (comment : Comment)
    : (openAfter none lines = none →
        split (joinLines (lines ++ comment.chars :: more)) = split (joinLines (lines ++ more)))
      ∧ ∀ line rest, more = line :: rest → endsStatement (openAfter none lines) line = true →
        split (joinLines (lines ++ (line ++ comment.chars) :: rest)) =
          split (joinLines (lines ++ more)) := by
  obtain ⟨hlines, hmore⟩ := List.forall_mem_append.mp h
  constructor
  · intro hopen
    have hinserted : ∀ line ∈ lines ++ comment.chars :: more, ∀ c ∈ line, isLineEnd c = false :=
      List.forall_mem_append.mpr
        ⟨hlines, List.forall_mem_cons.mpr ⟨comment.not_isLineEnd, hmore⟩⟩
    rw [split_joinLines hinserted, split_joinLines h]
    apply splitRest_append_congr
    intro collected
    apply splitRest_of_passed
    rw [hopen, comment.isCommentLine]
    rfl
  · rintro line rest rfl hends
    obtain ⟨hline, hrest⟩ := List.forall_mem_cons.mp hmore
    have hscan := scan_append_comment hends comment
    have hstill : endsStatement (openAfter none lines) (line ++ comment.chars) = true := by
      rw [endsStatement_iff, hscan]
      exact endsStatement_iff.mp hends
    have hlonger : ∀ c ∈ line ++ comment.chars, isLineEnd c = false :=
      List.forall_mem_append.mpr ⟨hline, comment.not_isLineEnd⟩
    have happended : ∀ other ∈ lines ++ (line ++ comment.chars) :: rest,
        ∀ c ∈ other, isLineEnd c = false :=
      List.forall_mem_append.mpr ⟨hlines, List.forall_mem_cons.mpr ⟨hlonger, hrest⟩⟩
    rw [split_joinLines happended, split_joinLines h]
    apply splitRest_append_congr
    intro collected
    rw [splitRest_of_endsStatement hstill, splitRest_of_endsStatement hends, hscan]

/-- A comment with a quote and terminators. -/
def trickyComment : Comment where
  blanks := " \t".toList
  text := "it's; -- \"; --;".toList
  blank := by simp; decide
  oneLine := by simp; decide

/-- The start of a statement with a literal over two lines. -/
def literalOverLines : List (List Char) := ["SELECT 'a;".toList, "--b', -- c".toList]

/-- The line that ends the statement, with an empty one behind it. -/
def statementEnd : List (List Char) := ["\"'\";; ".toList, "".toList]

/-- The comment is put in between lines of a statement behind a literal over two lines, and behind
the line that ends the statement.
-/
theorem split_with_comment_behind_literal
    : openAfter none literalOverLines = none
      ∧ split (joinLines (literalOverLines ++ trickyComment.chars :: statementEnd)) =
        split (joinLines (literalOverLines ++ statementEnd))
      ∧ endsStatement none "\"'\";; ".toList = true
      ∧ split (joinLines (literalOverLines ++ ["\"'\";; ".toList ++ trickyComment.chars, []])) =
        split (joinLines (literalOverLines ++ statementEnd)) := by
  have hlines : ∀ line ∈ literalOverLines ++ statementEnd, ∀ c ∈ line, isLineEnd c = false := by
    simp [literalOverLines, statementEnd]
    decide
  have hopen : openAfter none literalOverLines = none := by decide +kernel
  have hends : endsStatement none "\"'\";; ".toList = true := by decide +kernel
  obtain ⟨hinserted, happended⟩ := split_with_comment hlines trickyComment
  refine ⟨hopen, hinserted hopen, hends, happended _ _ rfl ?_⟩
  rw [hopen]
  exact hends

end SqlShell.Statement
