import SqlShell.Client.Prompt
import SqlShell.Proofs.Statement.CompleteTexts
import Mathlib.Data.List.Infix

/-! The statements that the shell takes from the answers of the user, one answer after another, and
those that dividing whole texts finds in the same answers.
-/

namespace SqlShell

open SqlShell.Text

/-- The line that an answer gives, unless it is a fault; nothing counts as an empty line. -/
def Answer.line? : Answer → Option (List Char)
  | .line text => some text.toList
  | .nothing => some []
  | .fault _ => none
  | .closing text => some text.toList

/-- The answer is a line, nothing or an interrupt. -/
def Answer.IsEntry : Answer → Prop
  | .line _ => True
  | .nothing => True
  | .fault request => request.kind = .interrupt
  | .closing _ => False

namespace ShellScript

open Statement

-----------------------------------------------------------------------------------------
-- Both readings of the answers
-----------------------------------------------------------------------------------------

/-- The statements that come of answers one after another, given the lines that are collected. A
line that completes these yields their statements, blank lines are passed over if nothing is
collected, and an interrupt drops what is collected.
-/
def taken : List (List Char) → List (Option (List Char)) → List (List Char)
  | _, [] => []
  | _, none :: rest => taken [] rest
  | lines, some line :: rest =>
      if lines.isEmpty && (trim line).isEmpty then taken lines rest
      else if isComplete (joinLines (lines ++ [line])) then
        split (joinLines (lines ++ [line])) ++ taken [] rest
      else taken (lines ++ [line]) rest

/-- The longest of the first parts of the lines that is complete, or no lines. -/
def completePart (lines : List (List Char)) : List (List Char) :=
  (lines.inits.reverse.find? fun part => isComplete (joinLines part)).getD []

/-- The statements of lines as one text, up to the last of them that completes one. -/
def statementsOf (lines : List (List Char)) : List (List Char) :=
  split (joinLines (completePart lines))

/-- The runs of lines between interrupts. -/
def runs (answers : List (Option (List Char))) : List (List (List Char)) :=
  (answers.splitOnP Option.isNone).map (·.filterMap id)

/-- The statements of all runs. -/
def script (answers : List (Option (List Char))) : List (List Char) :=
  (runs answers).flatMap statementsOf

-----------------------------------------------------------------------------------------
-- A run under way
-----------------------------------------------------------------------------------------

/-- One more line is the longest complete part with the lines before it if they are complete. -/
theorem completePart_concat (lines : List (List Char)) (line : List Char)
    : completePart (lines ++ [line]) =
        if isComplete (joinLines (lines ++ [line])) then lines ++ [line]
        else completePart lines := by
  have hi : (lines ++ [line]).inits.reverse = (lines ++ [line]) :: lines.inits.reverse := by
    rw [List.inits_append]
    simp
  rw [completePart, hi, List.find?_cons]
  split
  · next h => rw [h, if_pos rfl, Option.getD_some]
  · next h => rw [h, if_neg Bool.false_ne_true, completePart]

/-- The lines of a run that have been read, those of them that are still collected, and the
statements that were taken. As far as what follows is concerned, the collected lines stand for all
of them.
-/
structure Reading (read lines : List (List Char)) (statements : List (List Char)) : Prop where
  split_next : ∀ line,
    split (joinLines (read ++ [line])) = statements ++ split (joinLines (lines ++ [line]))
  complete_next : ∀ line, line ≠ [] ∨ lines ≠ [] →
    isComplete (joinLines (read ++ [line])) = isComplete (joinLines (lines ++ [line]))
  statements_eq : statements = statementsOf read

/-- At the start of a run nothing has been read. -/
theorem Reading.start : Reading [] [] [] :=
  ⟨fun _ => rfl, fun _ _ => rfl, rfl⟩

variable {read lines statements : List (List Char)} {line : List Char}

/-- A line that is only blank is passed over if nothing is collected. Of such lines just an empty
one can end a complete part, to which it adds no statement.
-/
theorem Reading.pass (h : Reading read [] statements) (hb : ∀ c ∈ line, isBlank c = true)
    : Reading (read ++ [line]) [] statements := by
  have hjoin : ∀ next, joinLines ([] ++ [line ++ '\n' :: next]) = line ++ '\n' :: next :=
    fun _ => rfl
  refine ⟨fun next => ?_, fun next hn => ?_, ?_⟩
  · rw [joinLines_concat_concat, h.split_next, hjoin, split_blank_append hb]
    rfl
  · rw [joinLines_concat_concat, h.complete_next _ (Or.inl (by simp)), hjoin,
      isComplete_blank_append hb]
    rfl
  · rw [statementsOf, completePart_concat]
    split
    · next hc =>
        by_cases hne : line = []
        · subst hne
          rw [h.split_next]
          exact (List.append_nil _).symm
        · rw [h.complete_next line (Or.inl hne)] at hc
          exact absurd (hc.symm.trans (isComplete_of_blank hb)) (by decide)
    · exact h.statements_eq

/-- A line that completes the collected ones yields their statements. -/
theorem Reading.complete (h : Reading read lines statements) (hne : line ≠ [] ∨ lines ≠ [])
    (hc : isComplete (joinLines (lines ++ [line])) = true)
    : Reading (read ++ [line]) [] (statements ++ split (joinLines (lines ++ [line]))) := by
  have hread : isComplete (joinLines (read ++ [line])) = true :=
    (h.complete_next line hne).trans hc
  have hsplit := h.split_next line
  refine ⟨fun next => ?_, fun next hn => ?_, ?_⟩
  · rw [joinLines_concat (by simp), split_append hread, hsplit]
    rfl
  · have hnext : next ≠ [] := hn.resolve_right (fun h => h rfl)
    rw [joinLines_concat (by simp), isComplete_append hread hnext]
    rfl
  · rw [statementsOf, completePart_concat, if_pos hread, hsplit]

/-- Any other line is collected. -/
theorem Reading.collect (h : Reading read lines statements) (hne : line ≠ [] ∨ lines ≠ [])
    (hc : isComplete (joinLines (lines ++ [line])) = false)
    : Reading (read ++ [line]) (lines ++ [line]) statements := by
  refine ⟨fun next => ?_, fun next _ => ?_, ?_⟩
  · rw [joinLines_concat_concat, h.split_next, ← joinLines_concat_concat]
  · rw [joinLines_concat_concat, h.complete_next _ (Or.inl (by simp)), ← joinLines_concat_concat]
  · rw [statementsOf, completePart_concat, h.complete_next line hne, hc,
      if_neg Bool.false_ne_true]
    exact h.statements_eq

-----------------------------------------------------------------------------------------
-- Whole runs
-----------------------------------------------------------------------------------------

/-- An interrupt ends a run. -/
theorem runs_interrupt (rest : List (Option (List Char)))
    : runs (none :: rest) = [] :: runs rest := by
  rw [runs, List.splitOnP_cons_eq_if_modifyHead, if_pos Option.isNone_none]
  rfl

/-- A line belongs to the first of the runs. -/
theorem runs_line (line : List Char) (rest : List (Option (List Char)))
    : runs (some line :: rest) = (runs rest).modifyHead (line :: ·) := by
  rw [runs, List.splitOnP_cons_eq_if_modifyHead, if_neg (by simp), runs]
  cases rest.splitOnP Option.isNone <;> rfl

/-- There is a first run, perhaps without lines. -/
theorem exists_runs_eq_cons (answers : List (Option (List Char)))
    : ∃ first others, runs answers = first :: others := by
  induction answers with
  | nil => exact ⟨[], [], rfl⟩
  | cons answer rest ih =>
      cases answer with
      | none => exact ⟨[], runs rest, runs_interrupt rest⟩
      | some line =>
          obtain ⟨first, others, he⟩ := ih
          exact ⟨line :: first, others, by rw [runs_line, he]; rfl⟩

/-- The statements taken so far and those that come of the other answers are those of the lines that
have been read with the rest of their run, and of the runs after it. By induction on the answers.
-/
theorem Reading.statements_append_taken {answers : List (Option (List Char))}
    (h : Reading read lines statements)
    : statements ++ taken lines answers =
        ((runs answers).modifyHead (read ++ ·)).flatMap statementsOf := by
  induction answers generalizing read lines statements with
  | nil =>
      rw [taken, List.append_nil, h.statements_eq]
      simp [runs, List.splitOnP_nil]
  | cons answer rest ih =>
      obtain ⟨first, others, hr⟩ := exists_runs_eq_cons rest
      cases answer with
      | none =>
          have hnext := ih Reading.start
          rw [runs_interrupt, taken, h.statements_eq]
          rw [List.nil_append, hr] at hnext
          rw [hnext, hr]
          simp
      | some line =>
          have hline : ((runs (some line :: rest)).modifyHead (read ++ ·)) =
              (runs rest).modifyHead (read ++ [line] ++ ·) := by
            rw [runs_line, hr]
            simp
          rw [hline, taken]
          split
          · next hb =>
              obtain ⟨hl, ht⟩ := (Bool.and_eq_true _ _).mp hb
              obtain rfl : lines = [] := List.isEmpty_iff.mp hl
              exact ih (h.pass ((trim_eq_nil_iff line).mp (List.isEmpty_iff.mp ht)))
          · next hb =>
              have hne : line ≠ [] ∨ lines ≠ [] := by
                by_contra hall
                obtain ⟨rfl, rfl⟩ : line = [] ∧ lines = [] := by simpa using hall
                exact hb rfl
              split
              · next hc => rw [← List.append_assoc, ih (h.complete hne hc)]
              · next hc => exact ih (h.collect hne (eq_false_of_ne_true hc))

/-- The statements that the shell takes from the answers one after another are those of the runs of
lines between interrupts.
-/
theorem taken_eq_script (answers : List (Option (List Char)))
    : taken [] answers = script answers := by
  have h : taken [] answers = ((runs answers).modifyHead ([] ++ ·)).flatMap statementsOf :=
    Reading.start.statements_append_taken
  obtain ⟨first, others, hr⟩ := exists_runs_eq_cons answers
  rw [h, script, hr]
  rfl

end ShellScript

end SqlShell
