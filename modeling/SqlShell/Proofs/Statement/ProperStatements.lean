import SqlShell.Proofs.Statement.GatheredLines

/-! Which statements are proper: they are not empty or blank at an end, have code of their own, and
end without a terminator. All statements of a text are proper exactly if none of its lines ends a
statement with two terminators, because one of these is left in the statement.
-/

namespace SqlShell.Statement

open SqlShell.Text

/-- The text ends with a terminator outside literals and comments. -/
def EndsInTerminator (text : List Char) : Prop :=
  ∃ body dash, text = body ++ [';'] ∧ Place.start.after body = .code dash

/-- A statement that is worth sending. -/
structure IsProper (statement : List Char) : Prop where
  notEmpty : statement ≠ []
  trimmed : trim statement = statement
  hasCode : bareCode statement ≠ []
  unterminated : ¬ EndsInTerminator statement

instance (code : List Char) : Decidable (EndsOnce code) :=
  inferInstanceAs (Decidable (_ = _))

/-- The lines that end statements end them with a single terminator, given the literal that is open
before the first line.
-/
def LinesEndOnce : Option Quote → List (List Char) → Prop
  | _, [] => True
  | quote, line :: lines =>
      (endsStatement quote line = true → EndsOnce (scan quote line).1)
      ∧ LinesEndOnce (scan quote line).2 lines

instance decidableLinesEndOnce (quote : Option Quote) (lines : List (List Char))
    : Decidable (LinesEndOnce quote lines) :=
  match lines with
  | [] => isTrue trivial
  | line :: lines =>
      have := decidableLinesEndOnce (scan quote line).2 lines
      inferInstanceAs (Decidable ((_ = true → EndsOnce _) ∧ _))

-----------------------------------------------------------------------------------------
-- The code of gathered lines
-----------------------------------------------------------------------------------------

/-- The code of a line that ends no statement has another last character than a terminator, if it
has any.
-/
theorem exists_last_of_line {quote : Option Quote} {line : List Char}
    (hends : endsStatement quote line = false) (hafter : (scan quote line).2 = none)
    (hne : (scan quote line).1 ≠ [])
    : ∃ code last, codeOfLine quote line = code ++ [last] ∧ last.char ≠ ';' := by
  obtain ⟨body, c, hcode, hc⟩ := exists_trimEnd_eq_concat hne
  have hscan : (scan quote line).1 = body ++ [c] := hcode
  refine ⟨codeChars quote body, ⟨c, (body.foldl nextQuote quote).isSome⟩, ?_, ?_⟩
  · rw [codeOfLine, hscan, codeChars_concat, CodeChar.ofChar?_of_not_blank hc, Option.toList_some]
  · rintro rfl
    have htrue : endsStatement quote line = true := by
      rw [endsStatement_iff, hscan, endsWithTerminator, List.getLast?_concat]
      exact ⟨hafter, rfl⟩
    exact absurd (htrue.symm.trans hends) (by decide)

/-- The code of gathered lines that end outside literals has another last character than a
terminator, if it has any. By induction on the lines from the last one: a line without code leaves
literals as they are.
-/
theorem Gathered.exists_last {quote : Option Quote} {lines : List (List Char)}
    (hg : Gathered quote lines) (ha : openAfter quote lines = none)
    (hne : codeOfLines quote lines ≠ [])
    : ∃ code last, codeOfLines quote lines = code ++ [last] ∧ last.char ≠ ';' := by
  induction lines using List.reverseRecOn with
  | nil => exact absurd rfl hne
  | append_singleton lines line ih =>
      obtain ⟨hlines, -, hends⟩ := (gathered_concat _ _ _).mp hg
      rw [openAfter_concat] at ha
      rw [codeOfLines_concat] at hne ⊢
      by_cases hblank : (scan (openAfter quote lines) line).1 = []
      · have hcode : codeOfLine (openAfter quote lines) line = [] := by
          rw [codeOfLine, hblank]
          rfl
        rw [hcode, List.append_nil] at hne ⊢
        exact ih hlines ((scan_snd_of_blank hblank).symm.trans ha) hne
      · obtain ⟨code, last, hcode, hlast⟩ := exists_last_of_line hends ha hblank
        exact ⟨codeOfLines quote lines ++ code, last, by rw [hcode, List.append_assoc], hlast⟩

/-- Gathered lines without code are blank, by induction: a comment is gathered only after code. -/
theorem Gathered.blank_of_code_nil {lines : List (List Char)} (hg : Gathered none lines)
    (hcode : codeOfLines none lines = [])
    : ∀ line ∈ lines, ∀ c ∈ line, isBlank c = true := by
  induction lines with
  | nil => exact List.forall_mem_nil _
  | cons line rest ih =>
      obtain ⟨hpassed, -, hg⟩ := hg
      obtain ⟨hfirst, hmore⟩ := List.append_eq_nil_iff.mp hcode
      have hkept : ∀ c ∈ (beforeComment none line).1, isBlank c = true := by
        have hchars := map_char_codeChars none (beforeComment none line).1
        rw [← codeOfLine_eq, hfirst, List.map_nil] at hchars
        simpa using List.filter_eq_nil_iff.mp hchars.symm
      have hline : ∀ c ∈ line, isBlank c = true := by
        obtain ⟨comment, he, hcomment⟩ := beforeComment_append none line
        rcases hcomment with rfl | ⟨-, tail, rfl⟩
        · rwa [he, List.append_nil]
        · have hc : isCommentLine line = true := by
            rw [he, isCommentLine_append_of_blank hkept]
            rfl
          rw [hc] at hpassed
          exact absurd hpassed (by decide)
      rw [scan_of_blank hline] at hg hmore
      exact List.forall_mem_cons.mpr ⟨hline, ih hg hmore⟩

-----------------------------------------------------------------------------------------
-- Terminators at the end of a text
-----------------------------------------------------------------------------------------

/-- A terminator after code is the last character of the code, by induction on the text before. -/
theorem exists_codeFrom_terminator {place : Place} {text : List Char} {dash : Bool}
    (h : place.after text = .code dash)
    : ∃ code, codeFrom place (text ++ [';']) = code ++ [terminator] := by
  induction text generalizing place with
  | nil =>
      obtain rfl : place = .code dash := h
      exact ⟨(Place.code dash).pending, by cases dash <;> rfl⟩
  | cons c rest ih =>
      obtain ⟨code, he⟩ := ih h
      exact ⟨place.settled c ++ code, by rw [List.cons_append, codeFrom, he, List.append_assoc]⟩

/-- The place after lines is where a reader stands at the start of the next line, by induction. -/
theorem startsLine_openAfter {lines : List (List Char)}
    (hl : ∀ line ∈ lines, ∀ c ∈ line, isLineEnd c = false)
    : (Place.start.after (writtenLines lines)).StartsLine (openAfter none lines) := by
  induction lines using List.reverseRecOn with
  | nil => exact Place.start_startsLine
  | append_singleton lines line ih =>
      obtain ⟨hlines, hline⟩ := List.forall_mem_append.mp hl
      rw [openAfter_concat]
      exact startsLine_concat (ih hlines) (List.forall_mem_singleton.mp hline)

theorem after_trimStart (text : List Char)
    : Place.start.after (trimStart text) = Place.start.after text := by
  obtain ⟨blanks, hb, he⟩ := exists_trimStart text
  conv => rhs; rw [he, Place.after_append, after_of_blank hb]

/-- A line that ends a statement with two terminators leaves one at the end of the statement. -/
theorem endsInTerminator_of_not_endsOnce {collected : List (List Char)} {line : List Char}
    (hc : ∀ line ∈ collected, ∀ c ∈ line, isLineEnd c = false)
    (he : endsStatement (openAfter none collected) line = true)
    (ho : ¬ EndsOnce (scan (openAfter none collected) line).1)
    : ∃ statement,
        ofLines? (collected ++ [(scan (openAfter none collected) line).1]) = some statement
        ∧ EndsInTerminator statement := by
  obtain ⟨code, hscan, hof⟩ := exists_of_not_endsOnce he ho collected
  have hfollows := after_beforeComment ((startsLine_openAfter hc).follows code)
  rw [hscan, ← Place.after_append, ← after_trimStart] at hfollows
  refine ⟨_, hof, trimStart (writtenLines collected ++ code), ?_⟩
  cases hplace : Place.start.after (trimStart (writtenLines collected ++ code)) with
  | code dash => exact ⟨dash, rfl, rfl⟩
  | literal quote inside =>
      rw [hplace] at hfollows
      exact absurd hfollows.symm (Option.some_ne_none quote)
  | comment =>
      rw [hplace] at hfollows
      exact hfollows.elim

-----------------------------------------------------------------------------------------
-- Proper statements
-----------------------------------------------------------------------------------------

/-- A gathered statement that ends outside literals is proper. -/
theorem IsGathered.isProper {statement : List Char} (h : IsGathered none statement none)
    (hne : statement ≠ []) (ht : Text.trim statement = statement)
    : IsProper statement := by
  obtain ⟨lines, rfl, hl, hg, ha⟩ := h
  have hcode : codeOfLines none lines ≠ [] := by
    intro hnil
    have hblank := trim_joinLines_append (hg.blank_of_code_nil hnil) []
    rw [List.append_nil, ht] at hblank
    exact hne hblank
  obtain ⟨code, last, hlast, hc⟩ := hg.exists_last ha hcode
  rw [← codeOf_joinLines hl] at hlast
  refine ⟨hne, ht, ?_, ?_⟩
  · rw [bareCode_eq, hlast, withoutTerminators, List.filter_append]
    simp [hc]
  · rintro ⟨body, dash, hbody, hplace⟩
    obtain ⟨front, hfront⟩ := exists_codeFrom_terminator hplace
    rw [codeOf_eq_codeFrom, hbody, hfront] at hlast
    obtain rfl := List.singleton_inj.mp (List.append_inj' hlast rfl).2
    exact hc rfl

/-- Statements that are neither empty nor blank at an end are all that any lines make, by induction
on the lines.
-/
theorem trimmed_of_mem_splitRest {quote : Option Quote} {collected lines : List (List Char)}
    {statement : List Char} (h : statement ∈ splitRest quote collected lines)
    : statement ≠ [] ∧ trim statement = statement := by
  induction lines generalizing quote collected with
  | nil => exact trimmed_of_ofLines? (Option.mem_toList.mp h)
  | cons line rest ih =>
      rw [splitRest_cons] at h
      split at h
      · exact ih h
      · split at h
        · rcases List.mem_append.mp h with h | h
          · exact trimmed_of_ofLines? (Option.mem_toList.mp h)
          · exact ih h
        · exact ih h

/-- The statement that a line ends is proper exactly if the line ends it with one terminator. -/
theorem isProper_ofLines?_iff {collected : List (List Char)} {line : List Char}
    (hg : Gathered none collected) (hc : ∀ line ∈ collected, ∀ c ∈ line, isLineEnd c = false)
    (hline : ∀ c ∈ line, isLineEnd c = false)
    (he : endsStatement (openAfter none collected) line = true)
    : (∀ statement ∈ (ofLines? (collected ++ [(scan (openAfter none collected) line).1])).toList,
        IsProper statement)
      ↔ EndsOnce (scan (openAfter none collected) line).1 := by
  constructor
  · intro hproper
    by_contra ho
    obtain ⟨statement, hof, hend⟩ := endsInTerminator_of_not_endsOnce hc he ho
    exact (hproper statement (Option.mem_toList.mpr hof)).unterminated hend
  · intro ho statement hmem
    have hof := Option.mem_toList.mp hmem
    obtain ⟨hne, ht⟩ := trimmed_of_ofLines? hof
    exact (isGathered_of_endsStatement hg hc hline he hof ho).isProper hne ht

/-- The statements of the remaining lines are proper exactly if these lines end them with single
terminators, where they end outside literals. By induction on the lines.
-/
theorem isProper_splitRest_iff {collected lines : List (List Char)}
    (hg : Gathered none collected) (hc : ∀ line ∈ collected, ∀ c ∈ line, isLineEnd c = false)
    (hl : ∀ line ∈ lines, ∀ c ∈ line, isLineEnd c = false)
    : openAfter (openAfter none collected) lines = none
      → ((∀ statement ∈ splitRest (openAfter none collected) collected lines, IsProper statement)
        ↔ LinesEndOnce (openAfter none collected) lines) := by
  refine Gathered.induction_remaining (P := fun collected lines =>
    openAfter (openAfter none collected) lines = none
    → ((∀ statement ∈ splitRest (openAfter none collected) collected lines, IsProper statement)
      ↔ LinesEndOnce (openAfter none collected) lines))
    ?last ?passed ?ended ?gathered hg hc hl
  case last =>
      intro collected hg hc hafter
      refine ⟨fun _ => trivial, fun _ statement hmem => ?_⟩
      have hof := Option.mem_toList.mp hmem
      obtain ⟨hne, ht⟩ := trimmed_of_ofLines? hof
      have hgathered := isGathered_of_ofLines? hg hc hof
      rw [show openAfter none collected = none from hafter] at hgathered
      exact hgathered.isProper hne ht
  case passed =>
      intro collected line rest hpassed hrest hafter
      obtain ⟨hquote, hs⟩ := scan_of_passed hpassed
      rw [hquote] at hrest hafter
      have hrestafter : openAfter (scan none line).2 rest = none := hafter
      rw [hs] at hrestafter
      rw [splitRest_of_passed hpassed, LinesEndOnce, hquote, endsStatement_of_scan_nil hs, hs]
      exact (hrest hrestafter).trans (by simp)
  case ended =>
      intro collected line rest hg hc hline hends hrest hafter
      have hnone := (endsStatement_iff.mp hends).1
      have hrestafter : openAfter (scan (openAfter none collected) line).2 rest = none := hafter
      rw [hnone] at hrestafter
      rw [splitRest_of_endsStatement hends, List.forall_mem_append,
        isProper_ofLines?_iff hg hc hline hends, LinesEndOnce, hnone]
      exact and_congr (by simp [hends]) (hrest hrestafter)
  case gathered =>
      intro collected line rest hone hrest hafter
      rw [openAfter_concat] at hrest
      rw [splitRest_of_gathered hone, LinesEndOnce, hone.2.1]
      exact (hrest hafter).trans (by simp)

/-- The statements of a text are never empty or blank at an end. They are all proper exactly if the
lines of the text end them with single terminators, where the text ends outside literals.
-/
theorem isProper_split_iff {content : List Char}
    (h : openAfter none (splitLines content) = none)
    : (∀ statement ∈ split content, statement ≠ [] ∧ trim statement = statement)
      ∧ ((∀ statement ∈ split content, IsProper statement)
        ↔ LinesEndOnce none (splitLines content)) := by
  have hlines : ∀ line ∈ splitLines content, ∀ c ∈ line, isLineEnd c = false :=
    fun _ hl _ hc => isLineEnd_eq_false_of_mem_splitLines hl hc
  refine ⟨fun statement hmem => trimmed_of_mem_splitRest hmem, ?_⟩
  exact isProper_splitRest_iff (gathered_nil none) (List.forall_mem_nil _) hlines h

/-- Stray terminators on lines of their own, and one at the end of a comment. -/
theorem isProper_split_with_stray_terminators
    : openAfter none (splitLines "\n;\nSELECT ';' -- it's;\n;\n ;\n\n-- ;\nSELECT 2".toList) = none
      ∧ split "\n;\nSELECT ';' -- it's;\n;\n ;\n\n-- ;\nSELECT 2".toList =
          ["SELECT ';' -- it's;".toList, "SELECT 2".toList]
      ∧ ∀ statement ∈ split "\n;\nSELECT ';' -- it's;\n;\n ;\n\n-- ;\nSELECT 2".toList,
          IsProper statement := by
  have hopen : openAfter none
      (splitLines "\n;\nSELECT ';' -- it's;\n;\n ;\n\n-- ;\nSELECT 2".toList) = none := by
    decide +kernel
  exact ⟨hopen, by decide +kernel, (isProper_split_iff hopen).2.mpr (by decide +kernel)⟩

/-- Two terminators on a line make a statement of one terminator. -/
theorem split_leaves_lone_terminator
    : openAfter none (splitLines ";;".toList) = none
      ∧ split ";;".toList = [";".toList]
      ∧ bareCode ";".toList = []
      ∧ ¬ ∀ statement ∈ split ";;".toList, IsProper statement := by
  have hsplit : split ";;".toList = [";".toList] := by decide +kernel
  have hcode : bareCode ";".toList = [] := by decide +kernel
  refine ⟨by decide +kernel, hsplit, hcode, fun hproper => ?_⟩
  exact (hproper ";".toList (by rw [hsplit]; exact List.mem_singleton_self _)).hasCode hcode

end SqlShell.Statement
