import SqlShell.Proofs.Text.LineSeams

/-! A text with every line end spelled as a line feed. This is what comes of cutting a text into
lines and writing each of these with a line feed.
-/

namespace SqlShell.Text

/-- The text with each line end made a line feed; a carriage return before a line feed is one line
end with it.
-/
def toNewlines : List Char → List Char
  | [] => []
  | '\r' :: '\n' :: rest => '\n' :: toNewlines rest
  | c :: rest => (if isLineEnd c then '\n' else c) :: toNewlines rest

/-- The lines, each with a line feed after it. -/
def writtenLines (lines : List (List Char)) : List Char :=
  lines.flatMap (· ++ ['\n'])

/-- Lines are written one after another. -/
theorem writtenLines_append (lines more : List (List Char))
    : writtenLines (lines ++ more) = writtenLines lines ++ writtenLines more := by
  rw [writtenLines, List.flatMap_append, writtenLines, writtenLines]

/-- The first line is written with a line feed before the other ones. -/
theorem writtenLines_cons (line : List Char) (lines : List (List Char))
    : writtenLines (line :: lines) = line ++ ['\n'] ++ writtenLines lines := by
  rw [writtenLines, List.flatMap_cons, writtenLines]

/-- Written lines are the joined ones with a last line feed, by induction. -/
theorem writtenLines_eq_joinLines {lines : List (List Char)} (h : lines ≠ [])
    : writtenLines lines = joinLines lines ++ ['\n'] := by
  induction lines with
  | nil => exact absurd rfl h
  | cons line rest ih =>
      cases rest with
      | nil => simp [writtenLines, joinLines]
      | cons next rest =>
          have hr := ih (List.cons_ne_nil next rest)
          rw [writtenLines_cons, hr, joinLines_cons line (List.cons_ne_nil next rest)]
          simp

/-- The written lines of a text are the text with its line ends made line feeds. If the text does
not end with a line end, its last line gets one. By induction on the text.
-/
theorem writtenLines_splitLines (text : List Char)
    : ∃ tail, (tail = [] ∨ tail = ['\n'])
        ∧ writtenLines (splitLines text) = toNewlines text ++ tail := by
  fun_induction splitLines text with
  | case1 => exact ⟨[], Or.inl rfl, rfl⟩
  | case2 rest ih =>
      obtain ⟨tail, ht, he⟩ := ih
      exact ⟨tail, ht, by simp [writtenLines_cons, toNewlines, he]⟩
  | case3 c rest hn hc ih =>
      obtain ⟨tail, ht, he⟩ := ih
      exact ⟨tail, ht, by simp [writtenLines_cons, toNewlines.eq_3 c rest hn, hc, he]⟩
  | case4 c rest hn hc hrest _ =>
      obtain rfl : rest = [] := by
        by_contra hne
        exact splitLines_ne_nil hne hrest
      refine ⟨['\n'], Or.inr rfl, ?_⟩
      rw [toNewlines.eq_3 c [] hn, if_neg hc]
      rfl
  | case5 c rest hn hc line lines hrest ih =>
      obtain ⟨tail, ht, he⟩ := ih
      refine ⟨tail, ht, ?_⟩
      rw [hrest, writtenLines_cons] at he
      rw [toNewlines.eq_3 c rest hn, if_neg hc, writtenLines_cons, List.cons_append,
        List.cons_append, List.cons_append, he]

/-- Two texts are spelled one after the other unless a line end lies across their seam. By induction
on the first text.
-/
theorem toNewlines_append {text more : List Char}
    (h : text.getLast? = some '\r' → more.head? ≠ some '\n')
    : toNewlines (text ++ more) = toNewlines text ++ toNewlines more := by
  fun_induction toNewlines text with
  | case1 => rfl
  | case2 rest ih =>
      have hr : rest.getLast? = some '\r' → more.head? ≠ some '\n' := by
        intro hl
        apply h
        cases rest with
        | nil => simp at hl
        | cons d rest => simpa using hl
      simp [toNewlines, ih hr]
  | case3 c rest hn ih =>
      have hc : ∀ tail, c = '\r' → rest ++ more = '\n' :: tail → False :=
        return_alone_append hn fun hrest hc => h (by simp [hrest, hc])
      have hr : rest.getLast? = some '\r' → more.head? ≠ some '\n' := by
        intro hl
        apply h
        cases rest with
        | nil => simp at hl
        | cons d rest => simpa using hl
      rw [List.cons_append, toNewlines.eq_3 c _ hc, ih hr, List.cons_append]

/-- A text is spelled with line feeds already exactly if these are its only line ends. By induction
on the text.
-/
theorem toNewlines_eq_self_iff (text : List Char)
    : toNewlines text = text ↔ ∀ c ∈ text, isLineEnd c = true → c = '\n' := by
  fun_induction toNewlines text with
  | case1 => simp
  | case2 rest ih =>
      constructor
      · intro he
        exact absurd (List.cons.inj he).1 (by decide)
      · intro h
        exact absurd (h '\r' List.mem_cons_self rfl) (by decide)
  | case3 c rest hn ih =>
      have hc : (if isLineEnd c then '\n' else c) = c ↔ (isLineEnd c = true → c = '\n') := by
        by_cases he : isLineEnd c = true
        · simp [he, eq_comm]
        · simp [he]
      rw [List.cons.injEq, ih, hc, List.forall_mem_cons]

/-- Carriage returns made line feeds leave the lines of a text the same, by induction on the text. -/
theorem splitLines_unifyLineEnds (text : List Char)
    : splitLines (unifyLineEnds text) = splitLines text := by
  fun_induction unifyLineEnds text with
  | case1 => rfl
  | case2 rest ih => rw [splitLines_newline, ih, splitLines]
  | case3 rest hn ih =>
      -- The carriage return ends a line alone, since no line feed follows it.
      have hr : ∀ tail, '\r' = '\r' → rest = '\n' :: tail → False := fun tail _ h => hn tail h
      rw [splitLines_newline, ih, splitLines.eq_3 _ _ hr]
      rfl
  | case4 c rest hn hc ih =>
      have hplain : ∀ next tail, c = '\r' → next = '\n' :: tail → False := fun _ _ h => absurd h hc
      rw [splitLines.eq_3 _ _ (hplain _), splitLines.eq_3 _ _ (hplain _), ih]

end SqlShell.Text
