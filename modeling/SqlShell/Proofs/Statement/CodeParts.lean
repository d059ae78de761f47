import SqlShell.Proofs.Statement.CommentedLines

/-! The code part of a line, scanned again. It is a beginning of the line that holds no comment and
leaves the same literal open, and outside literals blanks and a comment behind it change nothing, as
long as no dash of it meets one of theirs.
-/

namespace SqlShell.Statement

open SqlShell.Text

/-- The text may stand behind code: it is blanks, and perhaps a comment after them. -/
def IsTrailer (text : List Char) : Prop :=
  ∃ blanks comment,
    (∀ c ∈ blanks, isBlank c = true)
    ∧ (comment = [] ∨ ∃ rest, comment = '-' :: '-' :: rest)
    ∧ text = blanks ++ comment

-----------------------------------------------------------------------------------------
-- The code part alone
-----------------------------------------------------------------------------------------

/-- What precedes the comment of a line holds no comment and leaves the same literal open. -/
theorem beforeComment_beforeComment (quote : Option Quote) (line : List Char)
    : beforeComment quote (beforeComment quote line).1 = beforeComment quote line := by
  have hwhole : (beforeComment quote (beforeComment quote line).1).1 = (beforeComment quote line).1 :=
    beforeComment_of_prefix List.prefix_rfl
  refine Prod.ext hwhole ?_
  rw [beforeComment_snd, hwhole, ← beforeComment_snd]

/-- Scanning the code part of a line finds the same as scanning the line. -/
theorem scan_scan (quote : Option Quote) (line : List Char)
    : scan quote (scan quote line).1 = scan quote line := by
  calc scan quote (trimEnd (beforeComment quote line).1)
    _ = scan quote (beforeComment quote line).1 := scan_trimEnd quote _
    _ = scan quote line := by rw [scan_eq, beforeComment_beforeComment, ← scan_eq]

/-- All of the code part of a line precedes a comment. -/
theorem beforeComment_scan (quote : Option Quote) (line : List Char)
    : beforeComment quote (scan quote line).1 = scan quote line := by
  have hwhole : (beforeComment quote (scan quote line).1).1 = (scan quote line).1 :=
    beforeComment_of_prefix (isPrefix_scan quote line).1
  have hsame : (scan quote (scan quote line).1).2 = (scan quote line).2 :=
    congrArg Prod.snd (scan_scan quote line)
  exact Prod.ext hwhole hsame

-----------------------------------------------------------------------------------------
-- The code part with a trailer
-----------------------------------------------------------------------------------------

/-- Outside literals a trailer holds nothing but blanks before its comment. -/
theorem IsTrailer.exists_beforeComment {trailer : List Char} (h : IsTrailer trailer)
    : ∃ blanks, (∀ c ∈ blanks, isBlank c = true) ∧ beforeComment none trailer = (blanks, none) := by
  obtain ⟨blanks, comment, hb, hc, rfl⟩ := h
  refine ⟨blanks, hb, ?_⟩
  rw [beforeComment_append_of_blank hb]
  rcases hc with rfl | ⟨rest, rfl⟩
  · rw [beforeComment, List.append_nil]
  · rw [beforeComment, List.append_nil]

/-- A trailer that starts with a dash starts with two. -/
theorem IsTrailer.exists_dashes {trailer : List Char} (h : IsTrailer trailer)
    (hd : trailer.head? = some '-')
    : ∃ rest, trailer = '-' :: '-' :: rest := by
  obtain ⟨blanks, comment, hb, hc, rfl⟩ := h
  cases blanks with
  | cons c blanks =>
      obtain rfl := Option.some.inj hd
      exact absurd (hb '-' List.mem_cons_self) (by decide)
  | nil =>
      rcases hc with rfl | ⟨rest, rfl⟩
      · exact nomatch hd
      · exact ⟨rest, rfl⟩

/-- Two dashes outside literals end what precedes the comment, if it has not ended before them. By
induction on the text in front of them.
-/
theorem isPrefix_of_dashes {quote : Option Quote} {text : List Char}
    (h : text.foldl nextQuote quote = none) (rest : List Char)
    : (beforeComment quote (text ++ '-' :: '-' :: rest)).1 <+: text := by
  induction text generalizing quote with
  | nil =>
      obtain rfl : quote = none := h
      have hcode : (beforeComment none ([] ++ '-' :: '-' :: rest)).1 = [] := by
        rw [List.nil_append, beforeComment]
      exact hcode ▸ List.nil_prefix
  | cons c text ih =>
      rw [List.cons_append]
      by_cases hstart : ∃ tail, quote = none ∧ c = '-' ∧ text ++ '-' :: '-' :: rest = '-' :: tail
      · obtain ⟨tail, rfl, rfl, ht⟩ := hstart
        rw [ht, beforeComment]
        exact List.nil_prefix
      · rw [beforeComment.eq_3 _ _ _ fun tail hq hc ht => hstart ⟨tail, hq, hc, ht⟩]
        exact List.prefix_cons_iff.mpr (Or.inr ⟨_, rfl, ih h⟩)

/-- A trailer changes nothing for the scan of the code before it, unless two dashes meet. -/
theorem scan_append_trailer {quote : Option Quote} {code trailer : List Char}
    (h : beforeComment quote code = (code, none)) (ht : IsTrailer trailer)
    (hseam : ¬ (code.getLast? = some '-' ∧ trailer.head? = some '-'))
    : scan quote (code ++ trailer) = scan quote code := by
  obtain ⟨blanks, hb, htrailer⟩ := ht.exists_beforeComment
  rcases beforeComment_append_cases quote fun _ hl hd => hseam ⟨hl, hd⟩ with hs | ⟨-, hs⟩
  · rw [scan_eq, hs, ← scan_eq]
  · rw [scan_eq, hs, h, htrailer, scan_eq, h]
    exact Prod.ext (trimEnd_append_of_blank code hb) rfl

/-- Where two dashes meet, the comment starts with the last character of the code. -/
theorem scan_append_dashes_ne {quote : Option Quote} {code trailer : List Char}
    (h : beforeComment quote code = (code, none)) (ht : IsTrailer trailer)
    (hl : code.getLast? = some '-') (hd : trailer.head? = some '-')
    : (scan quote (code ++ trailer)).1 ≠ code := by
  obtain ⟨rest, rfl⟩ := ht.exists_dashes hd
  obtain ⟨body, rfl⟩ := List.getLast?_eq_some_iff.mp hl
  have hbody : body.foldl nextQuote quote = none := by
    have hstate := beforeComment_snd quote (body ++ ['-'])
    rw [h, List.foldl_concat, nextQuote_of_noQuote (by decide)] at hstate
    exact hstate.symm
  have hkept : (scan quote (body ++ ['-'] ++ '-' :: '-' :: rest)).1 <+: body := by
    rw [List.append_assoc]
    exact (isPrefix_scan quote _).1.trans (isPrefix_of_dashes hbody ('-' :: rest))
  intro he
  have hlength := (he ▸ hkept).length_le
  rw [List.length_append, List.length_singleton] at hlength
  exact Nat.not_succ_le_self _ hlength

/-- The scan is stable on the code part that it finds: this part is a beginning of the line, scanning
it again finds all of it and the same open literal, and if none is open, a trailer behind it changes
nothing, unless the dash at its end meets a dash of the trailer.
-/
theorem scan_code_part {quote after : Option Quote} {line code : List Char}
    (h : scan quote line = (code, after))
    : code <+: line
      ∧ scan quote code = (code, after)
      ∧ (after = none → ∀ trailer, IsTrailer trailer →
          (scan quote (code ++ trailer) = (code, none)
            ↔ ¬ (code.getLast? = some '-' ∧ trailer.head? = some '-'))) := by
  obtain ⟨hkept, hline⟩ := isPrefix_scan quote line
  have hagain := scan_scan quote line
  have hall := beforeComment_scan quote line
  rw [h] at hkept hagain hall
  refine ⟨hkept.trans hline, hagain, ?_⟩
  rintro rfl trailer ht
  constructor
  · rintro hs ⟨hl, hd⟩
    exact scan_append_dashes_ne hall ht hl hd (congrArg Prod.fst hs)
  · intro hseam
    rw [scan_append_trailer hall ht hseam, hagain]

/-- The code ends with a dash behind a literal that was open before the line. A comment after a tab
changes nothing, but directly behind the dash it starts with the dash.
-/
theorem scan_code_part_with_dash
    : scan (some .single) "b -- ' - -- it's".toList = ("b -- ' -".toList, none)
      ∧ "b -- ' -".toList <+: "b -- ' - -- it's".toList
      ∧ scan (some .single) "b -- ' -".toList = ("b -- ' -".toList, none)
      ∧ scan (some .single) ("b -- ' -".toList ++ "\t-- '".toList) = ("b -- ' -".toList, none)
      ∧ scan (some .single) ("b -- ' -".toList ++ "-- '".toList) ≠ ("b -- ' -".toList, none) := by
  have hscan : scan (some .single) "b -- ' - -- it's".toList = ("b -- ' -".toList, none) := by
    decide +kernel
  obtain ⟨hbegin, hagain, htrailer⟩ := scan_code_part hscan
  have htab : IsTrailer "\t-- '".toList :=
    ⟨['\t'], "-- '".toList, List.forall_mem_singleton.mpr (by decide), Or.inr ⟨" '".toList, rfl⟩, rfl⟩
  have hdash : IsTrailer "-- '".toList :=
    ⟨[], "-- '".toList, List.forall_mem_nil _, Or.inr ⟨" '".toList, rfl⟩, rfl⟩
  refine ⟨hscan, hbegin, hagain, (htrailer rfl _ htab).mpr (by decide), fun hs => ?_⟩
  exact (htrailer rfl _ hdash).mp hs (by decide)

end SqlShell.Statement
