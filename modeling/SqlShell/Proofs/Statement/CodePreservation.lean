import SqlShell.Proofs.Statement.CodeReading

/-! Dividing a text into statements keeps its code, in order and each character once, but for the
terminators that end statements.
-/

namespace SqlShell.Statement

open SqlShell.Text

/-- The code parts of lines, as the scan finds them. Each line starts in the literal that is open at
the end of the one before it.
-/
def codeParts : Option Quote → List (List Char) → List (List Char)
  | _, [] => []
  | quote, line :: lines => (scan quote line).1 :: codeParts (scan quote line).2 lines

/-- The code parts of a text, one after another, without blanks and terminators. -/
def bareCode (text : List Char) : List Char :=
  (codeParts none (splitLines text)).flatten.filter fun c => !isBlank c && c != ';'

/-- The code without terminators. -/
def withoutTerminators (code : List CodeChar) : List CodeChar :=
  code.filter (·.char != ';')

-----------------------------------------------------------------------------------------
-- The code of one statement
-----------------------------------------------------------------------------------------

/-- Joined lines have the code that is found line by line. -/
theorem codeOf_joinLines {lines : List (List Char)}
    (hl : ∀ line ∈ lines, ∀ c ∈ line, isLineEnd c = false)
    : codeOf (joinLines lines) = codeOfLines none lines := by
  rw [codeOf_eq_codeFrom, ← codeFrom_writtenLines Place.start_startsLine hl]
  by_cases hne : lines = []
  · subst hne
    rfl
  · rw [writtenLines_eq_joinLines hne, codeFrom_append_of_blank]
    simp [isBlank_of_isLineEnd isLineEnd_newline]

/-- A statement has the code of the lines that were collected for it, but for terminators at the end
of this code. If the lines make no statement, they have no other code.
-/
theorem codeOf_ofLines? {lines : List (List Char)}
    (hl : ∀ line ∈ lines, ∀ c ∈ line, isLineEnd c = false)
    : ∃ tail, (∀ c ∈ tail, c.char = ';')
        ∧ codeOfLines none lines = (ofLines? lines).toList.flatMap codeOf ++ tail := by
  generalize hb :
    (if endsWithTerminator (trim (joinLines lines)) then
      trimEnd (trim (joinLines lines)).dropLast
    else trim (joinLines lines)) = body
  have hbody : ∃ tail, (∀ c ∈ tail, c.char = ';')
      ∧ codeFrom .start (trim (joinLines lines)) = codeFrom .start body ++ tail := by
    rw [← hb]
    split
    · next ht =>
        have hlast : (trim (joinLines lines)).getLast? = some ';' := by
          simpa only [endsWithTerminator, beq_iff_eq] using ht
        obtain ⟨kept, he⟩ := List.getLast?_eq_some_iff.mp hlast
        rw [he, List.dropLast_concat, codeFrom_trimEnd]
        exact codeFrom_append_terminator .start kept
    · exact ⟨[], by simp, (List.append_nil _).symm⟩
  have hof : ofLines? lines = if body.isEmpty then none else some body := by
    rw [← hb, ofLines?]
  obtain ⟨tail, ht, he⟩ := hbody
  refine ⟨tail, ht, ?_⟩
  rw [← codeOf_joinLines hl, codeOf_eq_codeFrom, ← codeFrom_trim, he, hof, ← codeOf_eq_codeFrom]
  cases body with
  | nil => rfl
  | cons c rest => simp

/-- Without terminators a statement has the code of its lines. -/
theorem withoutTerminators_ofLines? {lines : List (List Char)}
    (hl : ∀ line ∈ lines, ∀ c ∈ line, isLineEnd c = false)
    : (ofLines? lines).toList.flatMap (withoutTerminators ∘ codeOf) =
        withoutTerminators (codeOfLines none lines) := by
  obtain ⟨tail, ht, he⟩ := codeOf_ofLines? hl
  have htail : withoutTerminators tail = [] :=
    List.filter_eq_nil_iff.mpr fun c hc => by simp [ht c hc]
  rw [he, withoutTerminators, List.filter_append, ← withoutTerminators, ← withoutTerminators,
    htail, List.append_nil]
  cases ofLines? lines with
  | none => rfl
  | some statement => simp

-----------------------------------------------------------------------------------------
-- The code of all statements
-----------------------------------------------------------------------------------------

/-- The code part of a line has no line end if the line has none. -/
theorem not_isLineEnd_of_mem_scan {line : List Char} (hl : ∀ c ∈ line, isLineEnd c = false)
    (quote : Option Quote)
    : ∀ c ∈ (scan quote line).1, isLineEnd c = false := by
  obtain ⟨hkept, hline⟩ := isPrefix_scan quote line
  intro c hm
  exact hl c ((hkept.trans hline).subset hm)

theorem forall_mem_concat {lines : List (List Char)} {line : List Char} {P : List Char → Prop}
    (h : ∀ other ∈ lines, P other) (hl : P line)
    : ∀ other ∈ lines ++ [line], P other :=
  List.forall_mem_append.mpr ⟨h, List.forall_mem_singleton.mpr hl⟩

/-- The statements of the remaining lines have the code of the collected and the remaining lines,
by induction on the latter. The literal that is open before a line is the one in which the collected
lines end.
-/
theorem withoutTerminators_splitRest {collected lines : List (List Char)}
    (hc : ∀ line ∈ collected, ∀ c ∈ line, isLineEnd c = false)
    (hl : ∀ line ∈ lines, ∀ c ∈ line, isLineEnd c = false)
    : (splitRest (openAfter none collected) collected lines).flatMap
          (withoutTerminators ∘ codeOf) =
        withoutTerminators (codeOfLines none (collected ++ lines)) := by
  induction lines generalizing collected with
  | nil => rw [splitRest, withoutTerminators_ofLines? hc, List.append_nil]
  | cons line rest ih =>
      obtain ⟨hline, hrest⟩ := List.forall_mem_cons.mp hl
      rw [splitRest_cons]
      split
      · next hpassed =>
          -- A line that is dropped has no code and stands outside literals.
          obtain ⟨hquote, hs⟩ := scan_of_passed hpassed
          have hcode : codeOfLine none line = [] := by
            rw [codeOfLine, hs]
            rfl
          have hpass : codeOfLines none (collected ++ line :: rest) =
              codeOfLines none (collected ++ rest) := by
            rw [codeOfLines_append_cons, codeOfLines_concat, hquote, hs, hcode, List.append_nil,
              codeOfLines_append, hquote]
          rw [hpass, ← ih hc hrest, hquote]
      · split
        · next hends =>
            -- Only the code of this line is collected, so it is scanned once more.
            have hafter : (scan (openAfter none collected) line).2 = none :=
              (endsStatement_iff.mp hends).1
            have hstart : (splitRest none [] rest).flatMap (withoutTerminators ∘ codeOf) =
                withoutTerminators (codeOfLines none rest) :=
              ih (List.forall_mem_nil _) hrest
            have hcode : ∀ other ∈ collected ++ [(scan (openAfter none collected) line).1],
                ∀ c ∈ other, isLineEnd c = false :=
              forall_mem_concat hc (not_isLineEnd_of_mem_scan hline _)
            rw [List.flatMap_append, hstart, codeOfLines_append_cons, hafter,
              withoutTerminators_ofLines? hcode, codeOfLines_concat, codeOfLines_concat,
              codeOfLine_scan]
            exact (List.filter_append _ _).symm
        · rw [← openAfter_concat, ih (forall_mem_concat hc hline) hrest, ← List.append_cons]

-----------------------------------------------------------------------------------------
-- The code of a script
-----------------------------------------------------------------------------------------

/-- The code parts of lines without blanks are their code, by induction on the lines. -/
theorem map_char_codeOfLines (quote : Option Quote) (lines : List (List Char))
    : (codeOfLines quote lines).map CodeChar.char =
        (codeParts quote lines).flatten.filter (!isBlank ·) := by
  induction lines generalizing quote with
  | nil => rfl
  | cons line rest ih =>
      rw [codeOfLines, List.map_append, ih, codeOfLine, map_char_codeChars, codeParts,
        List.flatten_cons, List.filter_append]

/-- The code parts of a text without blanks and terminators are its code without terminators. -/
theorem bareCode_eq (text : List Char)
    : bareCode text = (withoutTerminators (codeOf text)).map CodeChar.char := by
  have hf : withoutTerminators (codeOf text) =
      (codeOf text).filter ((· != ';') ∘ CodeChar.char) := rfl
  rw [hf, ← List.filter_map, codeOf, map_char_codeOfLines, List.filter_filter, bareCode]
  exact congrArg (List.filter · _) (funext fun c => Bool.and_comm _ _)

/-- Dividing a script into statements loses, repeats and reorders none of its code: apart from
blanks and terminators, the statements have the code of the script, one after another.
-/
theorem split_keeps_code (content : List Char)
    : (split content).flatMap bareCode = bareCode content := by
  have hlines : ∀ line ∈ splitLines content, ∀ c ∈ line, isLineEnd c = false :=
    fun _ hl _ hc => isLineEnd_eq_false_of_mem_splitLines hl hc
  have hsplit : (split content).flatMap (withoutTerminators ∘ codeOf) =
      withoutTerminators (codeOf content) :=
    withoutTerminators_splitRest (List.forall_mem_nil _) hlines
  calc (split content).flatMap bareCode
      = (split content).flatMap fun text =>
          ((withoutTerminators ∘ codeOf) text).map CodeChar.char :=
        List.flatMap_congr fun text _ => bareCode_eq text
    _ = (withoutTerminators (codeOf content)).map CodeChar.char := by
        rw [← List.map_flatMap, hsplit]
    _ = bareCode content := (bareCode_eq content).symm

end SqlShell.Statement
