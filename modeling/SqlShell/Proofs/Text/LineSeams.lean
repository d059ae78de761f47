import SqlShell.Proofs.Text.BlankTrimming
import SqlShell.Text.Lines

/-! The lines of a text that is put together from parts, and a text put together from its lines.
A carriage return at the end of one part and a line feed after it are one line end.
-/

namespace SqlShell.Text

/-- A line feed is a line end, and so is a carriage return. -/
theorem isLineEnd_newline : isLineEnd '\n' = true := rfl

/-- Line ends are blank, by the ranges of both classes. -/
theorem isBlank_of_isLineEnd {c : Char} (h : isLineEnd c = true) : isBlank c = true := by
  simp only [isLineEnd, Bool.or_eq_true, Bool.and_eq_true, decide_eq_true_eq, beq_iff_eq] at h
  simp only [isBlank, Bool.or_eq_true, Bool.and_eq_true, decide_eq_true_eq, beq_iff_eq]
  omega

/-- A line feed at the start of a text ends an empty line. -/
theorem splitLines_newline (text : List Char)
    : splitLines ('\n' :: text) = [] :: splitLines text := by
  have hr : ∀ rest, '\n' = '\r' → text = '\n' :: rest → False := fun _ h => by
    simp at h
  rw [splitLines.eq_3 _ _ hr, if_pos isLineEnd_newline]

/-- A text that is not empty has a line, by the cases of its start. -/
theorem splitLines_ne_nil {text : List Char} (h : text ≠ []) : splitLines text ≠ [] := by
  fun_cases splitLines text <;> simp_all

/-- A character that ends no line is the first one of the first line. -/
theorem splitLines_cons {c : Char} (h : isLineEnd c = false) (text : List Char)
    : splitLines (c :: text) = (c :: (splitLines text).headD []) :: (splitLines text).tail := by
  have hr : c ≠ '\r' := by
    rintro rfl
    exact absurd h (by decide)
  rw [splitLines.eq_3 _ _ (fun _ he _ => hr he), if_neg (by simp [h])]
  cases splitLines text <;> rfl

/-- A text without line ends that is not empty starts the first line, by induction on the text. -/
theorem splitLines_append {text : List Char} (h : ∀ c ∈ text, isLineEnd c = false)
    (hne : text ≠ []) (more : List Char)
    : splitLines (text ++ more) =
        (text ++ (splitLines more).headD []) :: (splitLines more).tail := by
  induction text with
  | nil => exact absurd rfl hne
  | cons c rest ih =>
      rw [List.cons_append, splitLines_cons (h c List.mem_cons_self)]
      by_cases hrest : rest = []
      · rw [hrest]
        rfl
      · rw [ih (fun d hd => h d (List.mem_cons_of_mem c hd)) hrest]
        rfl

/-- A carriage return that is no part of a longer line end stays so if no line feed follows it. -/
theorem return_alone_append {c : Char} {text more : List Char}
    (h : ∀ tail, c = '\r' → text = '\n' :: tail → False)
    (hm : text = [] → c = '\r' → more.head? ≠ some '\n')
    : ∀ tail, c = '\r' → text ++ more = '\n' :: tail → False := by
  intro tail hc he
  cases text with
  | nil => exact hm rfl hc (by rw [← List.nil_append more, he]; rfl)
  | cons d rest => exact h rest hc (by rw [(List.cons.inj he).1])

/-- No line holds a line end, by induction on the text. -/
theorem isLineEnd_eq_false_of_mem_splitLines {text line : List Char} {c : Char}
    (hl : line ∈ splitLines text) (hc : c ∈ line)
    : isLineEnd c = false := by
  fun_induction splitLines text generalizing line with
  | case1 => simp at hl
  | case2 rest ih =>
      rcases List.mem_cons.mp hl with rfl | hl
      · simp at hc
      · exact ih hl hc
  | case3 d rest _ _ ih =>
      rcases List.mem_cons.mp hl with rfl | hl
      · simp at hc
      · exact ih hl hc
  | case4 d rest _ hd _ _ =>
      obtain rfl := List.mem_singleton.mp hl
      obtain rfl := List.mem_singleton.mp hc
      simpa using hd
  | case5 d rest _ hd first lines he ih =>
      rcases List.mem_cons.mp hl with rfl | hl
      · rcases List.mem_cons.mp hc with rfl | hc
        · simpa using hd
        · exact ih (by simp [he]) hc
      · exact ih (by simp [he, hl]) hc

/-- The characters of the lines are characters of the text, by induction on the text. -/
theorem mem_of_mem_splitLines {text line : List Char} {c : Char}
    (hl : line ∈ splitLines text) (hc : c ∈ line)
    : c ∈ text := by
  fun_induction splitLines text generalizing line with
  | case1 => simp at hl
  | case2 rest ih =>
      rcases List.mem_cons.mp hl with rfl | hl
      · simp at hc
      · simp [ih hl hc]
  | case3 d rest _ _ ih =>
      rcases List.mem_cons.mp hl with rfl | hl
      · simp at hc
      · simp [ih hl hc]
  | case4 d rest _ _ _ _ =>
      obtain rfl := List.mem_singleton.mp hl
      obtain rfl := List.mem_singleton.mp hc
      exact List.mem_cons_self
  | case5 d rest _ _ first lines he ih =>
      rcases List.mem_cons.mp hl with rfl | hl
      · rcases List.mem_cons.mp hc with rfl | hc
        · exact List.mem_cons_self
        · exact List.mem_cons_of_mem _ (ih (by simp [he]) hc)
      · exact List.mem_cons_of_mem _ (ih (by simp [he, hl]) hc)

/-- A text before a line feed falls into its own lines, perhaps an empty one, and the lines of
what follows. The empty line is there if the text is empty or ends with another line end, which
the line feed does not complete.
-/
theorem splitLines_append_newline (text : List Char)
    : ∃ gap : List (List Char),
        (gap = [] ∨ gap = [[]])
        ∧ ∀ more, splitLines (text ++ '\n' :: more)
            = splitLines text ++ gap ++ splitLines more := by
  fun_induction splitLines text with
  | case1 =>
      refine ⟨[[]], Or.inr rfl, fun more => ?_⟩
      rw [List.nil_append, splitLines_newline]
      rfl
  | case2 rest ih =>
      obtain ⟨gap, hg, he⟩ := ih
      exact ⟨gap, hg, fun more => by simp [splitLines, he more]⟩
  | case3 c rest hn hc ih =>
      -- A lone carriage return takes the line feed that follows it into its own line end.
      by_cases hr : c = '\r' ∧ rest = []
      · obtain ⟨rfl, rfl⟩ := hr
        exact ⟨[], Or.inl rfl, fun more => by simp [splitLines]⟩
      · obtain ⟨gap, hg, he⟩ := ih
        refine ⟨gap, hg, fun more => ?_⟩
        have hstart : ∀ tail, c = '\r' → rest ++ '\n' :: more = '\n' :: tail → False :=
          return_alone_append hn fun hrest hcr => absurd ⟨hcr, hrest⟩ hr
        rw [List.cons_append, splitLines.eq_3 c _ hstart, if_pos hc, he more]
        simp
  | case4 c rest hn hc hrest ih =>
      obtain rfl : rest = [] := by
        by_contra hne
        exact splitLines_ne_nil hne hrest
      refine ⟨[], Or.inl rfl, fun more => ?_⟩
      rw [List.singleton_append, splitLines_cons (eq_false_of_ne_true hc), splitLines_newline]
      rfl
  | case5 c rest hn hc line lines hrest ih =>
      obtain ⟨gap, hg, he⟩ := ih
      refine ⟨gap, hg, fun more => ?_⟩
      rw [List.cons_append, splitLines_cons (eq_false_of_ne_true hc), he more, hrest]
      rfl

/-- The first of several lines stands before a line feed and the joined other ones. -/
theorem joinLines_cons (line : List Char) {lines : List (List Char)} (h : lines ≠ [])
    : joinLines (line :: lines) = line ++ '\n' :: joinLines lines :=
  joinLines.eq_3 line lines h

/-- Lines are joined by putting the last of them after a line feed, by induction. -/
theorem joinLines_concat {lines : List (List Char)} (h : lines ≠ []) (line : List Char)
    : joinLines (lines ++ [line]) = joinLines lines ++ '\n' :: line := by
  induction lines with
  | nil => exact absurd rfl h
  | cons first rest ih =>
      cases rest with
      | nil => rfl
      | cons second rest =>
          have hr := ih (List.cons_ne_nil second rest)
          have hne : second :: rest ++ [line] ≠ [] := List.cons_ne_nil second (rest ++ [line])
          rw [List.cons_append, joinLines_cons first hne, hr,
            joinLines_cons first (List.cons_ne_nil second rest), List.append_assoc,
            List.cons_append]

/-- Two last lines are joined as one that holds a line feed. -/
theorem joinLines_concat_concat (lines : List (List Char)) (line last : List Char)
    : joinLines (lines ++ [line] ++ [last]) = joinLines (lines ++ [line ++ '\n' :: last]) := by
  rw [joinLines_concat (by simp)]
  cases lines with
  | nil => rfl
  | cons first rest =>
      rw [joinLines_concat (by simp), joinLines_concat (by simp), List.append_assoc,
        List.cons_append]

/-- Blank lines before others are forgotten when the joined text is trimmed, by induction. -/
theorem trim_joinLines_append {blanks : List (List Char)}
    (h : ∀ line ∈ blanks, ∀ c ∈ line, isBlank c = true) (lines : List (List Char))
    : trim (joinLines (blanks ++ lines)) = trim (joinLines lines) := by
  induction blanks with
  | nil => rfl
  | cons line rest ih =>
      have hline : ∀ c ∈ line, isBlank c = true := h line List.mem_cons_self
      have hrest := ih fun l hl => h l (List.mem_cons_of_mem line hl)
      by_cases he : rest ++ lines = []
      · obtain ⟨rfl, rfl⟩ := List.append_eq_nil_iff.mp he
        exact (trim_eq_nil_iff line).mpr hline
      · have hgap : ∀ c ∈ line ++ ['\n'], isBlank c = true := by
          intro c hc
          rcases List.mem_append.mp hc with hc | hc
          · exact hline c hc
          · obtain rfl := List.mem_singleton.mp hc
            exact isBlank_of_isLineEnd isLineEnd_newline
        rw [List.cons_append, joinLines_cons line he, ← List.singleton_append,
          ← List.append_assoc, trim_append_of_blank hgap, hrest]

end SqlShell.Text
