import SqlShell.Proofs.Statement.ProperStatements
import SqlShell.Proofs.Statement.QuotedValues

/-! Whether a text is complete can be told by reading it character by character: the reader ends
outside literals, and the last code on the last line is a terminator.
-/

namespace SqlShell.Text

/-- The line is the last one of the text, and stands behind so much of it. What stands before the
line is nothing or ends with a line end.
-/
structure IsLastLine (text before line : List Char) : Prop where
  within : before ++ line <+: text
  lines_eq : splitLines text = splitLines before ++ [line]
  seam : ∀ c, before.getLast? = some c → isLineEnd c = true

/-- A line end that no other character completes is all that precedes an empty last line, or stands
before whatever precedes the last line of the rest.
-/
theorem exists_isLastLine_of_lineEnd (ending : List Char) {rest : List Char}
    (he : ∀ c ∈ ending, isLineEnd c = true)
    (hs : ∀ front, front <+: rest → splitLines (ending ++ front) = [] :: splitLines front)
    (hr : rest ≠ [] → ∃ before line, IsLastLine rest before line)
    : ∃ before line, IsLastLine (ending ++ rest) before line := by
  by_cases hrest : rest = []
  · subst hrest
    refine ⟨[], [], List.nil_prefix, ?_, by simp⟩
    have hcut := hs [] List.nil_prefix
    rw [splitLines] at hcut
    rw [hcut, splitLines, List.nil_append]
  · obtain ⟨before, line, hwithin, hlines, hseam⟩ := hr hrest
    refine ⟨ending ++ before, line, ?_, ?_, ?_⟩
    · rw [List.append_assoc]
      exact (List.prefix_append_right_inj ending).mpr hwithin
    · have hbefore : before <+: rest := (List.prefix_append before line).trans hwithin
      rw [hs rest List.prefix_rfl, hs before hbefore, hlines, List.cons_append]
    · intro c hc
      by_cases hb : before = []
      · subst hb
        rw [List.append_nil] at hc
        exact he c (List.mem_of_getLast? hc)
      · rw [List.getLast?_append_of_ne_nil _ hb] at hc
        exact hseam c hc

/-- A text that is not empty has a last line, by induction on the text. -/
theorem exists_isLastLine {text : List Char} (h : text ≠ [])
    : ∃ before line, IsLastLine text before line := by
  fun_induction splitLines text with
  | case1 => exact absurd rfl h
  | case2 rest ih =>
      apply exists_isLastLine_of_lineEnd ['\r', '\n'] (by simp; decide) _ ih
      intro front hfront
      rfl
  | case3 c rest hn hc ih =>
      apply exists_isLastLine_of_lineEnd [c] (by simpa using hc) _ ih
      rintro front ⟨more, rfl⟩
      have hfront : ∀ tail, c = '\r' → front = '\n' :: tail → False := by
        rintro tail hr rfl
        exact hn (tail ++ more) hr rfl
      rw [List.singleton_append, splitLines.eq_3 c front hfront, if_pos hc]
  | case4 c rest hn hc hrest ih =>
      obtain rfl : rest = [] := by
        by_contra hne
        exact splitLines_ne_nil hne hrest
      refine ⟨[], [c], List.prefix_rfl, ?_, by simp⟩
      rw [splitLines_cons (eq_false_of_ne_true hc)]
      rfl
  | case5 c rest hn hc first others hrest ih =>
      have hplain : isLineEnd c = false := eq_false_of_ne_true hc
      obtain ⟨before, line, hwithin, hlines, hseam⟩ := ih (by rintro rfl; cases hrest)
      cases hb : splitLines before with
      | nil =>
          -- The rest is a single line, which the character starts.
          obtain rfl : before = [] := by
            by_contra hne
            exact splitLines_ne_nil hne hb
          refine ⟨[], c :: line, ?_, ?_, by simp⟩
          · exact (List.cons_prefix_cons).mpr ⟨rfl, hwithin⟩
          · rw [splitLines_cons hplain, hlines, hb]
            rfl
      | cons start more =>
          have hne : before ≠ [] := by
            rintro rfl
            cases hb
          refine ⟨c :: before, line, ?_, ?_, ?_⟩
          · exact (List.cons_prefix_cons).mpr ⟨rfl, hwithin⟩
          · rw [splitLines_cons hplain, splitLines_cons hplain, hlines, hb]
            rfl
          · intro d hd
            obtain ⟨b, tail, rfl⟩ := List.exists_cons_of_ne_nil hne
            exact hseam d (by simpa using hd)

end SqlShell.Text

namespace SqlShell.Statement

open SqlShell.Text

-----------------------------------------------------------------------------------------
-- The literal in which a reader stands
-----------------------------------------------------------------------------------------

/-- The literal in which a reader stands, if it stands in one. -/
def Place.quote? : Place → Option Quote
  | .literal quote _ => some quote
  | _ => none

theorem Place.quote?_withNewlines (place : Place) : place.withNewlines.quote? = place.quote? := by
  cases place <;> rfl

/-- At the start of a line a reader stands in the literal that is open there. -/
theorem Place.StartsLine.quote?_eq {place : Place} {quote : Option Quote} (h : place.StartsLine quote)
    : place.quote? = quote := by
  cases place with
  | code dash => exact h.1.symm
  | literal open_ inside => exact h.symm
  | comment => exact h.elim

/-- A line end opens and closes no literal, and a reader stands at the start of a line after it. -/
theorem Place.startsLine_next {c : Char} (h : isLineEnd c = true) (place : Place)
    : (place.next c).StartsLine place.quote? := by
  cases place with
  | code dash =>
      obtain ⟨hq, hd⟩ := code_of_isLineEnd h
      rw [Place.next, if_neg hd, hq]
      exact Place.start_startsLine
  | literal quote inside =>
      rw [Place.next, if_neg (ne_char_of_isLineEnd h quote)]
      rfl
  | comment =>
      rw [Place.next, if_pos h]
      exact Place.start_startsLine

/-- A text leads to the same place when its line ends are made line feeds, by induction on the text.
-/
theorem after_toNewlines {place : Place} {text : List Char}
    (h : place.AfterReturn → text.head? ≠ some '\n')
    : place.withNewlines.after (toNewlines text) = (place.after text).withNewlines := by
  fun_induction toNewlines text generalizing place with
  | case1 => rfl
  | case2 rest ih =>
      have hnext : ((place.next '\r').next '\n').AfterReturn → rest.head? ≠ some '\n' :=
        fun hp => absurd (eq_return_of_afterReturn hp) (by decide)
      show (place.withNewlines.next '\n').after (toNewlines rest) = _
      rw [← next_next_withNewlines, ih hnext]
      rfl
  | case3 c rest hn ih =>
      have hc : place.AfterReturn → c ≠ '\n' := fun hp he => h hp (by rw [he]; rfl)
      have hnext : (place.next c).AfterReturn → rest.head? ≠ some '\n' := by
        intro hp he
        obtain ⟨tail, rfl⟩ := List.head?_eq_some_iff.mp he
        exact hn tail (eq_return_of_afterReturn hp) rfl
      show (place.withNewlines.next _).after (toNewlines rest) = _
      rw [next_withNewlines hc, ih hnext]
      rfl

/-- After a text a reader stands in the literal that is open after the lines of the text. -/
theorem quote?_after_eq (text : List Char)
    : (Place.start.after text).quote? = openAfter none (splitLines text) := by
  obtain ⟨tail, ht, hw⟩ := writtenLines_splitLines text
  have hends : ∀ line ∈ splitLines text, ∀ c ∈ line, isLineEnd c = false :=
    fun _ hl _ hc => isLineEnd_eq_false_of_mem_splitLines hl hc
  have hlines := startsLine_openAfter hends
  have hstart : Place.start.AfterReturn → text.head? ≠ some '\n' := fun hp => hp.elim
  have hspelled : Place.start.after (toNewlines text) = (Place.start.after text).withNewlines :=
    after_toNewlines hstart
  rw [hw, Place.after_append, hspelled] at hlines
  rw [← hlines.quote?_eq]
  rcases ht with rfl | rfl
  · exact (Place.quote?_withNewlines _).symm
  · have hnext := (Place.start.after text).withNewlines.startsLine_next isLineEnd_newline
    exact ((Place.quote?_withNewlines _).symm.trans hnext.quote?_eq.symm)

/-- Before the last line of a text a reader stands at the start of a line. -/
theorem startsLine_before_lastLine {text before line : List Char} (h : IsLastLine text before line)
    : (Place.start.after before).StartsLine (openAfter none (splitLines before)) := by
  rw [← quote?_after_eq]
  rcases List.eq_nil_or_concat' before with rfl | ⟨front, c, rfl⟩
  · exact Place.start_startsLine
  · have hc : isLineEnd c = true := h.seam c (List.getLast?_concat ..)
    have hnext := (Place.start.after front).startsLine_next hc
    have hafter : Place.start.after (front ++ [c]) = (Place.start.after front).next c := by
      rw [Place.after_append]
      rfl
    rw [hafter, hnext.quote?_eq]
    exact hnext

-----------------------------------------------------------------------------------------
-- The last code on a line
-----------------------------------------------------------------------------------------

/-- Reading a line from its start finds the code that the scan finds. -/
theorem codeFrom_of_startsLine {place : Place} {quote : Option Quote} {line : List Char}
    (h : place.StartsLine quote) (hl : ∀ c ∈ line, isLineEnd c = false)
    : codeFrom place line = codeOfLine quote line := by
  have hwritten := codeFrom_writtenLines h (List.forall_mem_singleton.mpr hl)
  have hline : writtenLines [line] = line ++ ['\n'] := List.append_nil _
  rw [hline, codeFrom_append_of_blank _ _ (by simp; rfl)] at hwritten
  exact hwritten.trans (List.append_nil _)

/-- The last code on a line is a terminator exactly if the code part of the line ends with one,
since no blank is left at its end.
-/
theorem getLast?_codeOfLine_iff (quote : Option Quote) (line : List Char)
    : (codeOfLine quote line).getLast?.map CodeChar.char = some ';'
      ↔ endsWithTerminator (scan quote line).1 = true := by
  have hchars : (codeOfLine quote line).map CodeChar.char =
      (scan quote line).1.filter (!isBlank ·) :=
    map_char_codeChars quote _
  rw [← List.getLast?_map, hchars]
  by_cases hempty : (scan quote line).1 = []
  · rw [hempty]
    decide
  · obtain ⟨code, c, hcode, hc⟩ := exists_trimEnd_eq_concat hempty
    have hscan : (scan quote line).1 = code ++ [c] := hcode
    rw [hscan, List.filter_append, List.filter_singleton, hc, endsWithTerminator,
      List.getLast?_concat]
    simp

-----------------------------------------------------------------------------------------
-- Complete texts
-----------------------------------------------------------------------------------------

/-- A text is complete exactly if its last line ends a statement, read from the literal that is open
after the lines before it.
-/
theorem isComplete_of_isLastLine {text before line : List Char} (h : IsLastLine text before line)
    : isComplete text = endsStatement (openAfter none (splitLines before)) line := by
  rw [isComplete, h.lines_eq, completeRest_concat]

/-- A text is complete exactly if a reader of all its characters ends outside literals, and finds on
the last line, read from where it stands there, a terminator as the last code.
-/
theorem isComplete_iff_reading (text : List Char)
    : isComplete text = true
      ↔ (Place.start.after text).quote? = none
        ∧ ∃ before line, IsLastLine text before line
          ∧ (codeFrom (Place.start.after before) line).getLast?.map CodeChar.char = some ';' := by
  have hends : ∀ {before line}, IsLastLine text before line →
      (isComplete text = true
        ↔ (Place.start.after text).quote? = none
          ∧ (codeFrom (Place.start.after before) line).getLast?.map CodeChar.char = some ';') := by
    intro before line h
    have hline : ∀ c ∈ line, isLineEnd c = false := by
      intro c hc
      have hmem : line ∈ splitLines text := by simp [h.lines_eq]
      exact isLineEnd_eq_false_of_mem_splitLines hmem hc
    rw [isComplete_of_isLastLine h, endsStatement_iff,
      codeFrom_of_startsLine (startsLine_before_lastLine h) hline, getLast?_codeOfLine_iff,
      quote?_after_eq, h.lines_eq, openAfter_concat]
  constructor
  · intro hcomplete
    have hne : text ≠ [] := by
      rintro rfl
      exact absurd hcomplete (by decide)
    obtain ⟨before, line, hlast⟩ := exists_isLastLine hne
    obtain ⟨houtside, hcode⟩ := (hends hlast).mp hcomplete
    exact ⟨houtside, before, line, hlast, hcode⟩
  · rintro ⟨houtside, before, line, hlast, hcode⟩
    exact (hends hlast).mpr ⟨houtside, hcode⟩

/-- A quote in a comment opens nothing, and the last code stands on the last line, behind a literal
that started before it.
-/
example : isComplete "SELECT 'a -- it''s;\r\n\"b' ; -- it's".toList = true := by decide +kernel

end SqlShell.Statement
