import SqlShell.Proofs.Statement.GatheredLines

/-! Statements written back as a script are divided into the same statements again. Each is written
with its terminator on a line of its own, so no comment at its end can hide the terminator. A
statement that ends with a terminator of its own is left out: it would lose this one as well.
-/

namespace SqlShell.Statement

open SqlShell.Text

/-- The statements, each with a terminator on the line after it. -/
def writtenStatements (statements : List (List Char)) : List Char :=
  statements.flatMap (· ++ ['\n', ';', '\n'])

theorem writtenStatements_cons (statement : List Char) (statements : List (List Char))
    : writtenStatements (statement :: statements) =
        statement ++ ['\n', ';', '\n'] ++ writtenStatements statements := by
  rw [writtenStatements, List.flatMap_cons, writtenStatements]

-----------------------------------------------------------------------------------------
-- One statement
-----------------------------------------------------------------------------------------

/-- A terminator alone on its line ends the statement, unless a literal is open there. -/
theorem scan_terminator (quote : Option Quote) : scan quote [';'] = ([';'], quote) := by
  rw [scan, beforeComment_terminator]
  rfl

/-- A statement is made again from its lines and a terminator on a line of its own. -/
theorem ofLines?_concat_terminator {lines : List (List Char)} {statement : List Char}
    (hj : joinLines lines = statement) (hne : statement ≠ []) (ht : trim statement = statement)
    : ofLines? (lines ++ [[';']]) = some statement := by
  have hlines : lines ≠ [] := by
    rintro rfl
    exact hne hj.symm
  have htext : trim (joinLines (lines ++ [[]])) = statement := by
    rw [joinLines_concat_eq, List.append_nil, writtenLines_eq_joinLines hlines, hj,
      trim_eq_trimStart_trimEnd, trimEnd_append_of_blank _ (by simp; rfl),
      ← trim_eq_trimStart_trimEnd, ht]
  have hof := ofLines?_terminated lines []
  rwa [htext, if_neg (mt List.isEmpty_iff.mp hne)] at hof

/-- A gathered statement that is written is the first one of the script that starts with it, if no
literal is open at its end. If one is, the statement is the only one, since the terminator is part
of the literal.
-/
theorem split_written_append {statement : List Char} {after : Option Quote}
    (h : IsGathered none statement after) (hne : statement ≠ []) (ht : trim statement = statement)
    {more : List Char} (hm : after ≠ none → more = [])
    : split (statement ++ ['\n', ';', '\n'] ++ more) = statement :: split more := by
  obtain ⟨lines, hj, hl, hg, ha⟩ := h
  have hof : ofLines? (lines ++ [[';']]) = some statement := ofLines?_concat_terminator hj hne ht
  have hlines : lines ≠ [] := by
    rintro rfl
    exact hne hj.symm
  have hterminator : ∀ line ∈ lines ++ [[';']], ∀ c ∈ line, isLineEnd c = false :=
    forall_mem_concat hl (by simp; rfl)
  have hwritten : writtenLines (lines ++ [[';']]) = statement ++ ['\n', ';', '\n'] := by
    rw [writtenLines_append, writtenLines_eq_joinLines hlines, hj, List.append_assoc]
    rfl
  rw [← hwritten, split, splitLines_writtenLines_append hterminator, List.append_assoc,
    hg.splitRest_append, ha, List.nil_append, List.singleton_append, splitRest_cons,
    endsStatement, scan_terminator]
  have hpassed : (after.isNone && isCommentLine [';']) = false := Bool.and_false _
  rw [hpassed, if_neg Bool.false_ne_true]
  cases after with
  | none =>
      show (ofLines? (lines ++ [[';']])).toList ++ split more = statement :: split more
      rw [hof]
      rfl
  | some quote =>
      rw [hm (Option.some_ne_none quote)]
      show (ofLines? (lines ++ [[';']])).toList = [statement]
      rw [hof]
      rfl

-----------------------------------------------------------------------------------------
-- All statements
-----------------------------------------------------------------------------------------

/-- A line whose statement ends without a terminator has ended it with a single one. -/
theorem endsOnce_of_ofLines? {collected : List (List Char)} {quote : Option Quote}
    {line statement : List Char} (he : endsStatement quote line = true)
    (hof : ofLines? (collected ++ [(scan quote line).1]) = some statement)
    (hs : endsWithTerminator statement = false)
    : EndsOnce (scan quote line).1 := by
  by_contra ho
  obtain ⟨code, -, hlast⟩ := exists_of_not_endsOnce he ho collected
  obtain rfl := Option.some.inj (hlast.symm.trans hof)
  rw [endsWithTerminator, List.getLast?_concat] at hs
  exact absurd hs (by decide)

/-- The statements of the remaining lines are found again when they are written, by induction on the
lines.
-/
theorem split_written_splitRest {collected lines : List (List Char)}
    (hg : Gathered none collected) (hc : ∀ line ∈ collected, ∀ c ∈ line, isLineEnd c = false)
    (hl : ∀ line ∈ lines, ∀ c ∈ line, isLineEnd c = false)
    : (∀ statement ∈ splitRest (openAfter none collected) collected lines,
        endsWithTerminator statement = false)
      → split (writtenStatements (splitRest (openAfter none collected) collected lines)) =
        splitRest (openAfter none collected) collected lines := by
  refine Gathered.induction_remaining (P := fun collected lines =>
    (∀ statement ∈ splitRest (openAfter none collected) collected lines,
      endsWithTerminator statement = false)
    → split (writtenStatements (splitRest (openAfter none collected) collected lines)) =
      splitRest (openAfter none collected) collected lines)
    ?last ?passed ?ended ?gathered hg hc hl
  case last =>
      intro collected hg hc _
      rw [splitRest]
      cases hof : ofLines? collected with
      | none => rfl
      | some statement =>
          obtain ⟨hne, ht⟩ := trimmed_of_ofLines? hof
          have hgathered := isGathered_of_ofLines? hg hc hof
          rw [Option.toList_some, writtenStatements_cons]
          exact split_written_append hgathered hne ht fun _ => rfl
  case passed =>
      intro collected line rest hpassed hrest
      rwa [splitRest_of_passed hpassed]
  case ended =>
      intro collected line rest hg hc hline hends hrest hs
      rw [splitRest_of_endsStatement hends] at hs ⊢
      obtain ⟨hstatement, hothers⟩ := List.forall_mem_append.mp hs
      cases hof : ofLines? (collected ++ [(scan (openAfter none collected) line).1]) with
      | none => exact hrest hothers
      | some statement =>
          obtain ⟨hne, ht⟩ := trimmed_of_ofLines? hof
          rw [hof, Option.toList_some, List.forall_mem_singleton] at hstatement
          have hgathered := isGathered_of_endsStatement hg hc hline hends hof
            (endsOnce_of_ofLines? hends hof hstatement)
          rw [Option.toList_some, List.singleton_append, writtenStatements_cons,
            split_written_append hgathered hne ht fun h => absurd rfl h]
          exact congrArg _ (hrest hothers)
  case gathered =>
      intro collected line rest hone hrest
      rwa [splitRest_of_gathered hone, ← openAfter_concat]

/-- The statements of a text can be written back as a script: dividing the script gives the same
statements, if none of them ends with a terminator.
-/
theorem split_writtenStatements {content : List Char}
    (h : ∀ statement ∈ split content, endsWithTerminator statement = false)
    : split (writtenStatements (split content)) = split content :=
  split_written_splitRest (gathered_nil none) (List.forall_mem_nil _)
    (fun _ hl _ hc => isLineEnd_eq_false_of_mem_splitLines hl hc) h

/-- A statement that ends in a comment, one with a literal over two lines and a last one whose
literal is not closed.
-/
theorem split_writtenStatements_with_open_literal
    : split "SELECT 1 -- it's\n;\nSELECT 'a;\n\n--b';\n\nSELECT \"c\n;".toList =
        ["SELECT 1 -- it's".toList, "SELECT 'a;\n\n--b'".toList, "SELECT \"c".toList]
      ∧ split (writtenStatements
            (split "SELECT 1 -- it's\n;\nSELECT 'a;\n\n--b';\n\nSELECT \"c\n;".toList)) =
          split "SELECT 1 -- it's\n;\nSELECT 'a;\n\n--b';\n\nSELECT \"c\n;".toList :=
  ⟨by decide +kernel, split_writtenStatements (by decide +kernel)⟩

end SqlShell.Statement
