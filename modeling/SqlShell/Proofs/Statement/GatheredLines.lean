import SqlShell.Proofs.Statement.LineEnds

/-! Lines that are gathered for a statement: none of them is left out as a comment, and none ends a
statement. The lines of a statement are such lines, except where a second terminator is left at the
end of the statement.
-/

namespace SqlShell.Statement

open SqlShell.Text

/-- The lines are gathered one after another, given the literal that is open before them. -/
def Gathered : Option Quote → List (List Char) → Prop
  | _, [] => True
  | quote, line :: lines =>
      (quote.isNone && isCommentLine line) = false
      ∧ endsStatement quote line = false
      ∧ Gathered (scan quote line).2 lines

/-- The text is made of lines that are gathered, after which the literal is open. -/
def IsGathered (quote : Option Quote) (text : List Char) (after : Option Quote) : Prop :=
  ∃ lines, joinLines lines = text
    ∧ (∀ line ∈ lines, ∀ c ∈ line, isLineEnd c = false)
    ∧ Gathered quote lines
    ∧ openAfter quote lines = after

/-- The code of a line that ends a statement has no second terminator before the one at its end. -/
def EndsOnce (code : List Char) : Prop :=
  endsWithTerminator (trimEnd code.dropLast) = false

-----------------------------------------------------------------------------------------
-- Gathered lines
-----------------------------------------------------------------------------------------

theorem gathered_nil (quote : Option Quote) : Gathered quote [] :=
  trivial

/-- Lines are gathered if the first ones are, and then the other ones. By induction on the first
ones.
-/
theorem gathered_append (quote : Option Quote) (lines more : List (List Char))
    : Gathered quote (lines ++ more)
      ↔ Gathered quote lines ∧ Gathered (openAfter quote lines) more := by
  induction lines generalizing quote with
  | nil => simp [Gathered, openAfter]
  | cons line rest ih =>
      rw [List.cons_append, Gathered, Gathered, ih, and_assoc, and_assoc]
      rfl

theorem gathered_concat (quote : Option Quote) (lines : List (List Char)) (line : List Char)
    : Gathered quote (lines ++ [line])
      ↔ Gathered quote lines
        ∧ ((openAfter quote lines).isNone && isCommentLine line) = false
        ∧ endsStatement (openAfter quote lines) line = false := by
  rw [gathered_append, Gathered, Gathered, and_true]

/-- Gathered lines join those that were collected before them, by induction on the lines. -/
theorem Gathered.splitRest_append {quote : Option Quote} {lines : List (List Char)}
    (h : Gathered quote lines) (collected more : List (List Char))
    : splitRest quote collected (lines ++ more) =
        splitRest (openAfter quote lines) (collected ++ lines) more := by
  induction lines generalizing quote collected with
  | nil => rw [List.append_nil]; rfl
  | cons line rest ih =>
      obtain ⟨hpassed, hends, hrest⟩ := h
      rw [List.cons_append, splitRest_cons, hpassed, hends, if_neg Bool.false_ne_true,
        if_neg Bool.false_ne_true, ih hrest, ← List.append_cons]
      rfl

-----------------------------------------------------------------------------------------
-- How lines become statements
-----------------------------------------------------------------------------------------

/-- A line that is only a comment is passed over. -/
theorem splitRest_of_passed {quote : Option Quote} {line : List Char}
    (h : (quote.isNone && isCommentLine line) = true) (collected lines : List (List Char))
    : splitRest quote collected (line :: lines) = splitRest quote collected lines := by
  rw [splitRest_cons, if_pos h, (scan_of_passed h).1]

/-- A line that ends a statement completes it, and is no comment. -/
theorem splitRest_of_endsStatement {quote : Option Quote} {line : List Char}
    (h : endsStatement quote line = true) (collected lines : List (List Char))
    : splitRest quote collected (line :: lines) =
        (ofLines? (collected ++ [(scan quote line).1])).toList ++ splitRest none [] lines := by
  rw [splitRest_cons, if_neg, if_pos h]
  intro hpassed
  obtain ⟨rfl, hs⟩ := scan_of_passed hpassed
  exact absurd ((endsStatement_of_scan_nil hs).symm.trans h) Bool.false_ne_true

/-- Any other line is gathered. -/
theorem splitRest_of_gathered {quote : Option Quote} {line : List Char}
    (h : Gathered quote [line]) (collected lines : List (List Char))
    : splitRest quote collected (line :: lines) =
        splitRest (scan quote line).2 (collected ++ [line]) lines :=
  h.splitRest_append collected lines

/-- What holds of the lines collected for a statement and of those that remain, as long as the
collected ones are gathered. It is shown where no line remains, and for each way in which a line is
taken in. By induction on the lines that remain.
-/
theorem Gathered.induction_remaining {P : List (List Char) → List (List Char) → Prop}
    (last : ∀ collected, Gathered none collected
      → (∀ line ∈ collected, ∀ c ∈ line, isLineEnd c = false)
      → P collected [])
    (passed : ∀ collected line rest,
      ((openAfter none collected).isNone && isCommentLine line) = true
      → P collected rest
      → P collected (line :: rest))
    (ended : ∀ collected line rest, Gathered none collected
      → (∀ line ∈ collected, ∀ c ∈ line, isLineEnd c = false)
      → (∀ c ∈ line, isLineEnd c = false)
      → endsStatement (openAfter none collected) line = true
      → P [] rest
      → P collected (line :: rest))
    (gathered : ∀ collected line rest, Gathered (openAfter none collected) [line]
      → P (collected ++ [line]) rest
      → P collected (line :: rest))
    {collected lines : List (List Char)} (hg : Gathered none collected)
    (hc : ∀ line ∈ collected, ∀ c ∈ line, isLineEnd c = false)
    (hl : ∀ line ∈ lines, ∀ c ∈ line, isLineEnd c = false)
    : P collected lines := by
  induction lines generalizing collected with
  | nil => exact last collected hg hc
  | cons line rest ih =>
      obtain ⟨hline, hrest⟩ := List.forall_mem_cons.mp hl
      by_cases hpassed : ((openAfter none collected).isNone && isCommentLine line) = true
      · exact passed collected line rest hpassed (ih hg hc hrest)
      · by_cases hends : endsStatement (openAfter none collected) line = true
        · exact ended collected line rest hg hc hline hends
            (ih (gathered_nil none) (List.forall_mem_nil _) hrest)
        · have hone : Gathered (openAfter none collected) [line] :=
            ⟨eq_false_of_ne_true hpassed, eq_false_of_ne_true hends, trivial⟩
          refine gathered collected line rest hone (ih ?_ (forall_mem_concat hc hline) hrest)
          exact (gathered_append _ _ _).mpr ⟨hg, hone⟩

-----------------------------------------------------------------------------------------
-- Trimming gathered text
-----------------------------------------------------------------------------------------

/-- Gathered text is still gathered when its end is trimmed, unless nothing is left. By induction on
its lines from the last one: trailing blank lines go, and the last other line is trimmed.
-/
theorem IsGathered.trimEnd {quote after : Option Quote} {text : List Char}
    (h : IsGathered quote text after) (hne : trimEnd text ≠ [])
    : IsGathered quote (trimEnd text) after := by
  obtain ⟨lines, rfl, hl, hg, ha⟩ := h
  induction lines using List.reverseRecOn generalizing after with
  | nil => exact absurd rfl hne
  | append_singleton lines line ih =>
      obtain ⟨hlines, hline⟩ := List.forall_mem_append.mp hl
      have hline : ∀ c ∈ line, isLineEnd c = false := List.forall_mem_singleton.mp hline
      obtain ⟨hg, hpassed, hends⟩ := (gathered_concat _ _ _).mp hg
      rw [openAfter_concat] at ha
      rw [joinLines_concat_eq, trimEnd_append] at hne ⊢
      by_cases hb : Text.trimEnd line = []
      · rw [if_pos hb] at hne ⊢
        have hsame : (scan (openAfter quote lines) line).2 = openAfter quote lines := by
          rw [← scan_trimEnd, hb, scan, beforeComment]
        by_cases hempty : lines = []
        · subst hempty
          exact absurd rfl hne
        · rw [writtenLines_eq_joinLines hempty, trimEnd_append_of_blank _ (by simp; rfl)] at hne ⊢
          exact ih hne hlines hg (hsame.symm.trans ha)
      · rw [if_neg hb, ← joinLines_concat_eq]
        obtain ⟨blanks, _, he⟩ := exists_trimEnd line
        refine ⟨lines ++ [Text.trimEnd line], rfl, forall_mem_concat hlines ?_, ?_, ?_⟩
        · intro c hc
          exact hline c (he ▸ List.mem_append_left blanks hc)
        · refine (gathered_concat _ _ _).mpr ⟨hg, ?_, (endsStatement_trimEnd _ _).trans hends⟩
          rw [he] at hpassed
          exact not_passed_of_append hpassed
        · rw [openAfter_concat, scan_trimEnd, ha]

/-- Text that is gathered outside literals is still gathered when its start is trimmed, unless
nothing is left. By induction on its lines: leading blank lines go, and the first other line is
trimmed.
-/
theorem IsGathered.trimStart {after : Option Quote} {text : List Char}
    (h : IsGathered none text after) (hne : trimStart text ≠ [])
    : IsGathered none (trimStart text) after := by
  obtain ⟨lines, rfl, hl, hg, ha⟩ := h
  induction lines with
  | nil => exact absurd rfl hne
  | cons line rest ih =>
      obtain ⟨hline, hrest⟩ := List.forall_mem_cons.mp hl
      obtain ⟨hpassed, hends, hg⟩ := hg
      obtain ⟨blanks, hb, he⟩ := Text.exists_trimStart line
      by_cases hempty : Text.trimStart line = []
      · have hblank : ∀ c ∈ line, isBlank c = true := List.dropWhile_eq_nil_iff.mp hempty
        have hs := scan_of_blank hblank
        have hnone : rest ≠ [] := by
          rintro rfl
          exact hne hempty
        rw [trimStart_joinLines_of_blank hblank hnone] at hne ⊢
        rw [hs] at hg
        refine ih hne hrest hg ?_
        rw [← ha]
        show _ = openAfter (scan none line).2 rest
        rw [hs]
      · obtain ⟨hstate, hsame⟩ := endsStatement_append_of_blank hb (Text.trimStart line)
        rw [← he] at hstate hsame
        refine ⟨Text.trimStart line :: rest, (trimStart_joinLines hempty rest).symm, ?_,
          ⟨?_, hsame ▸ hends, hstate ▸ hg⟩, ?_⟩
        · refine List.forall_mem_cons.mpr ⟨fun c hc => hline c ?_, hrest⟩
          exact List.dropWhile_subset _ hc
        · rw [← isCommentLine_append_of_blank hb, ← he]
          exact hpassed
        · rw [← ha]
          exact congrArg (openAfter · rest) hstate.symm

/-- Text that is gathered outside literals is still gathered when it is trimmed. -/
theorem IsGathered.trim {after : Option Quote} {text : List Char}
    (h : IsGathered none text after) (hne : trim text ≠ [])
    : IsGathered none (trim text) after := by
  refine (h.trimStart fun hs => hne ?_).trimEnd hne
  rw [Text.trim, hs]
  rfl

/-- Gathered text is still gathered without a terminator at its end. -/
theorem IsGathered.dropTerminator {quote after : Option Quote} {text : List Char}
    (h : IsGathered quote (text ++ [';']) after)
    : IsGathered quote text after := by
  obtain ⟨lines, hj, hl, hg, rfl⟩ := h
  obtain ⟨lines, line, rfl, htext⟩ := exists_of_joinLines_eq_concat hj (by decide)
  obtain ⟨hlines, hline⟩ := List.forall_mem_append.mp hl
  have hline : ∀ c ∈ line ++ [';'], isLineEnd c = false := List.forall_mem_singleton.mp hline
  obtain ⟨hg, hpassed, hends⟩ := (gathered_concat _ _ _).mp hg
  obtain ⟨hends, hstate⟩ := endsStatement_of_append_terminator hends
  refine ⟨lines ++ [line], htext, ?_, ?_, ?_⟩
  · exact forall_mem_concat hlines (List.forall_mem_append.mp hline).1
  · exact (gathered_concat _ _ _).mpr ⟨hg, not_passed_of_append hpassed, hends⟩
  · rw [openAfter_concat, openAfter_concat, hstate]

-----------------------------------------------------------------------------------------
-- The lines of a statement
-----------------------------------------------------------------------------------------

/-- The statement of lines is their trimmed text, or what trimming leaves of it without a terminator
at its end.
-/
theorem exists_of_ofLines? {lines : List (List Char)} {statement : List Char}
    (h : ofLines? lines = some statement)
    : statement ≠ [] ∧ ∃ body, statement = trim body
        ∧ (trim (joinLines lines) = body ∨ trim (joinLines lines) = body ++ [';']) := by
  rw [ofLines?] at h
  generalize ht : trim (joinLines lines) = text at h
  have htrim : trim text = text := by rw [← ht, trim_trim]
  by_cases hends : endsWithTerminator text = true
  · rw [if_pos hends] at h
    have hlast : text.getLast? = some ';' := by
      simpa only [endsWithTerminator, beq_iff_eq] using hends
    obtain ⟨body, rfl⟩ := List.getLast?_eq_some_iff.mp hlast
    rw [trim, trimStart_concat (by decide), trimEnd_concat (by decide),
      List.append_cancel_right_eq] at htrim
    rw [List.dropLast_concat] at h
    split at h
    · cases h
    · next hne =>
        obtain rfl := Option.some.inj h
        refine ⟨mt List.isEmpty_iff.mpr hne, body, ?_, Or.inr rfl⟩
        rw [trim, htrim]
  · rw [if_neg hends] at h
    split at h
    · cases h
    · next hne =>
        obtain rfl := Option.some.inj h
        exact ⟨mt List.isEmpty_iff.mpr hne, _, htrim.symm, Or.inl rfl⟩

/-- A statement is not empty and has no blanks at its ends. -/
theorem trimmed_of_ofLines? {lines : List (List Char)} {statement : List Char}
    (h : ofLines? lines = some statement)
    : statement ≠ [] ∧ trim statement = statement := by
  obtain ⟨hne, body, rfl, _⟩ := exists_of_ofLines? h
  exact ⟨hne, trim_trim body⟩

/-- The statement that gathered lines make without a line that ends it is gathered. -/
theorem isGathered_of_ofLines? {lines : List (List Char)} {statement : List Char}
    (hg : Gathered none lines) (hl : ∀ line ∈ lines, ∀ c ∈ line, isLineEnd c = false)
    (h : ofLines? lines = some statement)
    : IsGathered none statement (openAfter none lines) := by
  obtain ⟨hne, body, rfl, hbody⟩ := exists_of_ofLines? h
  have htext : IsGathered none (joinLines lines) (openAfter none lines) := ⟨lines, rfl, hl, hg, rfl⟩
  have hblank : trim (joinLines lines) ≠ [] := by
    rintro hnil
    rcases hbody with he | he
    · rw [he] at hnil
      exact hne (by rw [hnil]; rfl)
    · rw [he] at hnil
      exact absurd hnil (by simp)
  have hgathered : IsGathered none body (openAfter none lines) := by
    rcases hbody with he | he
    · exact he ▸ htext.trim hblank
    · exact (he ▸ htext.trim hblank :).dropTerminator
  exact hgathered.trim hne

/-- The statement of lines, the last of which ends with a terminator, is their trimmed text without
this terminator.
-/
theorem ofLines?_terminated (lines : List (List Char)) (line : List Char)
    : ofLines? (lines ++ [line ++ [';']]) =
        if (trim (joinLines (lines ++ [line]))).isEmpty then none
        else some (trim (joinLines (lines ++ [line]))) := by
  have hj : joinLines (lines ++ [line ++ [';']]) = joinLines (lines ++ [line]) ++ [';'] := by
    rw [joinLines_concat_eq, joinLines_concat_eq, List.append_assoc]
  have ht : trim (joinLines (lines ++ [line]) ++ [';']) =
      trimStart (joinLines (lines ++ [line])) ++ [';'] := by
    rw [trim, trimStart_concat (by decide), trimEnd_concat (by decide)]
  have hend : endsWithTerminator (trimStart (joinLines (lines ++ [line])) ++ [';']) = true := by
    rw [endsWithTerminator, List.getLast?_concat]
    rfl
  rw [ofLines?, hj, ht, hend, if_pos rfl, List.dropLast_concat, ← trim]

/-- The statement of gathered lines and of a line that ends it is gathered, if that line ends it with
a single terminator.
-/
theorem isGathered_of_endsStatement {collected : List (List Char)} {line statement : List Char}
    (hg : Gathered none collected) (hc : ∀ line ∈ collected, ∀ c ∈ line, isLineEnd c = false)
    (hline : ∀ c ∈ line, isLineEnd c = false)
    (he : endsStatement (openAfter none collected) line = true)
    (hof : ofLines? (collected ++ [(scan (openAfter none collected) line).1]) = some statement)
    (ho : EndsOnce (scan (openAfter none collected) line).1)
    : IsGathered none statement none := by
  have hne : statement ≠ [] := (trimmed_of_ofLines? hof).1
  obtain ⟨code, hcode, hscan, hbegin⟩ := exists_code_of_endsStatement he
  rw [hcode, ofLines?_terminated] at hof
  rw [hcode, EndsOnce, List.dropLast_concat] at ho
  obtain rfl : trim (joinLines (collected ++ [code])) = statement := by
    split at hof
    · exact nomatch hof
    · exact Option.some.inj hof
  have hstate : scan (openAfter none collected) code = (trimEnd code, none) := by rw [scan, hscan]
  have hpassed : ((openAfter none collected).isNone && isCommentLine code) = false := by
    by_contra hpassed
    obtain ⟨hquote, hcomment⟩ := (Bool.and_eq_true _ _).mp (eq_true_of_ne_false hpassed)
    obtain ⟨more, rfl⟩ := hbegin
    have hnone := scan_of_isCommentLine (isCommentLine_append hcomment more)
    rw [Option.isNone_iff_eq_none.mp hquote, endsStatement_of_scan_nil hnone] at he
    exact absurd he Bool.false_ne_true
  have hends : endsStatement (openAfter none collected) code = false := by
    rw [endsStatement, hstate]
    exact ho
  refine IsGathered.trim ⟨collected ++ [code], rfl, ?_, ?_, ?_⟩ hne
  · exact forall_mem_concat hc fun c hm => hline c (hbegin.subset hm)
  · exact (gathered_concat _ _ _).mpr ⟨hg, hpassed, hends⟩
  · rw [openAfter_concat, hstate]

/-- A line that ends a statement with two terminators leaves one of them at the end of the statement,
outside literals and comments.
-/
theorem exists_of_not_endsOnce {quote : Option Quote} {line : List Char}
    (he : endsStatement quote line = true) (ho : ¬ EndsOnce (scan quote line).1)
    (collected : List (List Char))
    : ∃ code, beforeComment quote code = (code, none)
        ∧ ofLines? (collected ++ [(scan quote line).1]) =
            some (trimStart (writtenLines collected ++ code) ++ [';']) := by
  obtain ⟨front, hfront, hscan, -⟩ := exists_code_of_endsStatement he
  rw [hfront, EndsOnce, List.dropLast_concat] at ho
  have hstate : scan quote front = (trimEnd front, none) := by rw [scan, hscan]
  have hends : endsStatement quote front = true := by
    rw [endsStatement, hstate]
    exact eq_true_of_ne_false ho
  obtain ⟨code, hcode, hwhole, -⟩ := exists_code_of_endsStatement hends
  have hkept : trimEnd front = code ++ [';'] := by rw [← hcode, hstate]
  have htext : trim (joinLines (collected ++ [front])) =
      trimStart (writtenLines collected ++ code) ++ [';'] := by
    rw [trim_eq_trimStart_trimEnd, joinLines_concat_eq, trimEnd_append, hkept, if_neg (by simp),
      ← List.append_assoc, trimStart_concat (by decide)]
  refine ⟨code, hwhole, ?_⟩
  rw [hfront, ofLines?_terminated, htext, if_neg (by simp)]

end SqlShell.Statement
