import SqlShell.Proofs.Text.LineSpelling

/-! Texts that are joined from lines: cutting them gives the lines back, and trimming them trims
their first and last lines that are not blank.
-/

namespace SqlShell.Text

-----------------------------------------------------------------------------------------
-- Trimming a text of two parts
-----------------------------------------------------------------------------------------

/-- Trimming the end of two parts trims the first one only if the second one is blank. -/
theorem trimEnd_append (text more : List Char)
    : trimEnd (text ++ more) = if trimEnd more = [] then trimEnd text else text ++ trimEnd more := by
  simp only [trimEnd, dropEndWhile_eq_rdropWhile, List.rdropWhile, List.reverse_append,
    List.dropWhile_append, List.isEmpty_iff, List.reverse_eq_nil_iff]
  split
  · rfl
  · rw [List.reverse_append, List.reverse_reverse]

/-- Trimming the end of a text once more changes nothing. -/
theorem trimEnd_trimEnd (text : List Char) : trimEnd (trimEnd text) = trimEnd text := by
  obtain ⟨blanks, hb, he⟩ := exists_trimEnd text
  conv => rhs; rw [he, trimEnd_append_of_blank _ hb]

/-- A text is blank exactly if trimming its end leaves nothing of it. -/
theorem trimEnd_eq_nil_iff (text : List Char)
    : trimEnd text = [] ↔ ∀ c ∈ text, isBlank c = true := by
  rw [trimEnd, dropEndWhile_eq_rdropWhile, List.rdropWhile_eq_nil_iff]

/-- A character that is not blank stays at the end. -/
theorem trimEnd_concat {c : Char} (h : isBlank c = false) (text : List Char)
    : trimEnd (text ++ [c]) = text ++ [c] := by
  have hc : trimEnd [c] = [c] := by simp [trimEnd, dropEndWhile, h]
  rw [trimEnd_append, hc, if_neg (List.cons_ne_nil c [])]

/-- What trimming the end of a text leaves ends with a character that is not blank. -/
theorem exists_trimEnd_eq_concat {text : List Char} (h : trimEnd text ≠ [])
    : ∃ body c, trimEnd text = body ++ [c] ∧ isBlank c = false := by
  refine ⟨(trimEnd text).dropLast, (trimEnd text).getLast h,
    (List.dropLast_append_getLast h).symm, eq_false_of_ne_true ?_⟩
  simp only [trimEnd, dropEndWhile_eq_rdropWhile] at h ⊢
  exact List.rdropWhile_last_not isBlank text h

/-- A character that is not blank stays at the start of what is trimmed of blanks before it. -/
theorem trimStart_append {text : List Char} (h : trimStart text ≠ []) (more : List Char)
    : trimStart (text ++ more) = trimStart text ++ more := by
  rw [trimStart] at h
  rw [trimStart, List.dropWhile_append, if_neg (mt List.isEmpty_iff.mp h), trimStart]

/-- A character that is not blank stays after what is trimmed at the start. -/
theorem trimStart_concat {c : Char} (h : isBlank c = false) (text : List Char)
    : trimStart (text ++ [c]) = trimStart text ++ [c] := by
  by_cases ht : trimStart text = []
  · have hb : ∀ d ∈ text, isBlank d = true := List.dropWhile_eq_nil_iff.mp ht
    rw [ht, trimStart, List.dropWhile_append_of_pos hb]
    simp [h]
  · exact trimStart_append ht [c]

/-- Trimming both ends trims the start of what trimming the end leaves. -/
theorem trim_eq_trimStart_trimEnd (text : List Char) : trim text = trimStart (trimEnd text) := by
  by_cases hb : ∀ c ∈ text, isBlank c = true
  · rw [(trim_eq_nil_iff text).mpr hb, (trimEnd_eq_nil_iff text).mpr hb]
    rfl
  · obtain ⟨body, c, he, hc⟩ := exists_trimEnd_eq_concat (mt (trimEnd_eq_nil_iff text).mp hb)
    obtain ⟨blanks, hblanks, ht⟩ := exists_trimEnd text
    have hne : trimStart (trimEnd text) ≠ [] := by
      rw [he, trimStart_concat hc]
      simp
    rw [trim]
    conv => lhs; rw [ht]
    rw [trimStart_append hne, trimEnd_append_of_blank _ hblanks, he, trimStart_concat hc,
      trimEnd_concat hc]

/-- Trimming a text once more changes nothing. -/
theorem trim_trim (text : List Char) : trim (trim text) = trim text := by
  have hs : trimStart (trimStart (trimEnd text)) = trimStart (trimEnd text) :=
    List.dropWhile_idempotent isBlank _
  rw [trim_eq_trimStart_trimEnd (trim text), trim, trimEnd_trimEnd, ← trim,
    trim_eq_trimStart_trimEnd, hs]

-----------------------------------------------------------------------------------------
-- Cutting joined lines
-----------------------------------------------------------------------------------------

/-- The last of joined lines stands after the other ones, each with its line feed. -/
theorem joinLines_concat_eq (lines : List (List Char)) (line : List Char)
    : joinLines (lines ++ [line]) = writtenLines lines ++ line := by
  by_cases h : lines = []
  · rw [h]
    rfl
  · rw [joinLines_concat h, writtenLines_eq_joinLines h, List.append_assoc, List.singleton_append]

/-- A blank line in front of other ones is trimmed away with its line feed. -/
theorem trimStart_joinLines_of_blank {line : List Char} (h : ∀ c ∈ line, isBlank c = true)
    {rest : List (List Char)} (hr : rest ≠ [])
    : trimStart (joinLines (line :: rest)) = trimStart (joinLines rest) := by
  have hgap : ∀ c ∈ line ++ ['\n'], isBlank c = true :=
    List.forall_mem_append.mpr ⟨h, by simp; rfl⟩
  rw [joinLines_cons line hr, List.append_cons, trimStart, List.dropWhile_append_of_pos hgap,
    trimStart]

/-- Trimming the start of joined lines trims the first one if it is not blank. -/
theorem trimStart_joinLines {line : List Char} (h : trimStart line ≠ []) (rest : List (List Char))
    : trimStart (joinLines (line :: rest)) = joinLines (trimStart line :: rest) := by
  cases rest with
  | nil => rfl
  | cons next others =>
      rw [joinLines_cons _ (List.cons_ne_nil _ _), trimStart_append h,
        joinLines_cons _ (List.cons_ne_nil _ _)]

/-- Joined lines that end with a character other than a line feed have it at the end of the last one.
-/
theorem exists_of_joinLines_eq_concat {lines : List (List Char)} {text : List Char} {c : Char}
    (h : joinLines lines = text ++ [c]) (hc : c ≠ '\n')
    : ∃ others line, lines = others ++ [line ++ [c]] ∧ joinLines (others ++ [line]) = text := by
  obtain ⟨others, last, rfl⟩ : ∃ others last, lines = others ++ [last] := by
    refine (List.eq_nil_or_concat' lines).resolve_left ?_
    rintro rfl
    exact absurd h (by simp [joinLines])
  rw [joinLines_concat_eq] at h
  rcases List.eq_nil_or_concat' last with rfl | ⟨line, d, rfl⟩
  · exfalso
    rw [List.append_nil] at h
    by_cases hempty : others = []
    · subst hempty
      exact absurd h (by simp [writtenLines])
    · rw [writtenLines_eq_joinLines hempty] at h
      exact hc (List.singleton_inj.mp (List.append_inj' h rfl).2).symm
  · rw [← List.append_assoc] at h
    obtain ⟨hstart, hlast⟩ := List.append_inj' h rfl
    refine ⟨others, line, by rw [hlast], ?_⟩
    rw [joinLines_concat_eq, hstart]

/-- Cutting lines that were written gives the lines back, and then the lines of what follows. By
induction on the lines.
-/
theorem splitLines_writtenLines_append {lines : List (List Char)}
    (h : ∀ line ∈ lines, ∀ c ∈ line, isLineEnd c = false) (more : List Char)
    : splitLines (writtenLines lines ++ more) = lines ++ splitLines more := by
  induction lines with
  | nil => rfl
  | cons line rest ih =>
      obtain ⟨hline, hrest⟩ := List.forall_mem_cons.mp h
      rw [writtenLines_cons, List.append_assoc, List.append_assoc, List.singleton_append]
      by_cases hne : line = []
      · rw [hne, List.nil_append, splitLines_newline, ih hrest, List.cons_append]
      · rw [splitLines_append hline hne, splitLines_newline, ih hrest, List.headD_cons,
          List.tail_cons, List.append_nil, List.cons_append]

/-- Cutting joined lines gives the lines back if the last one is not empty. -/
theorem splitLines_joinLines {lines : List (List Char)} {line : List Char}
    (h : ∀ other ∈ lines, ∀ c ∈ other, isLineEnd c = false)
    (hl : ∀ c ∈ line, isLineEnd c = false) (hne : line ≠ [])
    : splitLines (joinLines (lines ++ [line])) = lines ++ [line] := by
  rw [joinLines_concat_eq, splitLines_writtenLines_append h, splitLines_of_noLineEnd hl hne]

/-- A text whose only line ends are line feeds is joined from lines, by induction on the text. -/
theorem exists_joinLines {text : List Char} (h : ∀ c ∈ text, isLineEnd c = true → c = '\n')
    : ∃ lines line, joinLines (lines ++ [line]) = text
        ∧ (∀ other ∈ lines, ∀ c ∈ other, isLineEnd c = false)
        ∧ ∀ c ∈ line, isLineEnd c = false := by
  induction text with
  | nil => exact ⟨[], [], rfl, List.forall_mem_nil _, List.forall_mem_nil _⟩
  | cons c rest ih =>
      obtain ⟨hc, hrest⟩ := List.forall_mem_cons.mp h
      obtain ⟨lines, line, he, hl, hline⟩ := ih hrest
      by_cases hend : isLineEnd c = true
      · refine ⟨[] :: lines, line, ?_, List.forall_mem_cons.mpr ⟨List.forall_mem_nil _, hl⟩, hline⟩
        rw [List.cons_append, joinLines_cons _ (by simp), he, hc hend, List.nil_append]
      · have hplain : isLineEnd c = false := eq_false_of_ne_true hend
        cases lines with
        | nil =>
            exact ⟨[], c :: line, by rw [← he]; rfl, List.forall_mem_nil _,
              List.forall_mem_cons.mpr ⟨hplain, hline⟩⟩
        | cons first others =>
            obtain ⟨hfirst, hothers⟩ := List.forall_mem_cons.mp hl
            refine ⟨(c :: first) :: others, line, ?_, ?_, hline⟩
            · rw [List.cons_append, joinLines_cons _ (by simp)] at he
              rw [List.cons_append, joinLines_cons _ (by simp), List.cons_append, he]
            · exact List.forall_mem_cons.mpr
                ⟨List.forall_mem_cons.mpr ⟨hplain, hfirst⟩, hothers⟩

end SqlShell.Text
