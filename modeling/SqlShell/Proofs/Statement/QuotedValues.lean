import SqlShell.Proofs.Statement.GatheredLines

/-! A value that is written as a literal stays inside it. With the quotes in it doubled, neither its
terminators nor its comment marks cut the statement around it, wherever its line ends are.
-/

namespace SqlShell.Statement

open SqlShell.Text

/-- The value as a literal: between two quotes, with each quote of their kind in it doubled. -/
def Quote.enclose (quote : Quote) (value : List Char) : List Char :=
  quote.char :: value.flatMap (fun c => if c = quote.char then [c, c] else [c]) ++ [quote.char]

/-- Code without literals, comments and terminators. -/
structure IsBare (text : List Char) : Prop where
  noQuote : ∀ c ∈ text, Quote.ofChar? c = none
  noTerminator : ';' ∉ text
  noComment : ¬ ['-', '-'] <:+: text

/-- The text starts no comment and has terminators in literals only, given the literal that is open
before it.
-/
def IsPlain : Option Quote → List Char → Prop
  | _, [] => True
  | quote, c :: rest =>
      (quote = none → c ≠ ';' ∧ (c = '-' → rest.head? ≠ some '-'))
      ∧ IsPlain (nextQuote quote c) rest

-----------------------------------------------------------------------------------------
-- Plain texts
-----------------------------------------------------------------------------------------

/-- The parts of a plain text are plain, by induction on the first one. -/
theorem IsPlain.of_append {quote : Option Quote} {text more : List Char}
    (h : IsPlain quote (text ++ more))
    : IsPlain quote text ∧ IsPlain (text.foldl nextQuote quote) more := by
  induction text generalizing quote with
  | nil => exact ⟨trivial, h⟩
  | cons c rest ih =>
      obtain ⟨hc, hrest⟩ := h
      obtain ⟨hrest, hmore⟩ := ih hrest
      refine ⟨⟨fun hq => ⟨(hc hq).1, fun hd hh => (hc hq).2 hd ?_⟩, hrest⟩, hmore⟩
      obtain ⟨tail, rfl⟩ := List.head?_eq_some_iff.mp hh
      rfl

/-- Bare code in front of a plain text leaves it plain if the two do not meet in two dashes. By
induction on the code.
-/
theorem IsBare.isPlain_append {text more : List Char} (h : IsBare text) (hm : IsPlain none more)
    (hd : more.head? ≠ some '-')
    : IsPlain none (text ++ more) := by
  induction text with
  | nil => exact hm
  | cons c rest ih =>
      obtain ⟨hquote, hquotes⟩ := List.forall_mem_cons.mp h.noQuote
      have hrest : IsBare rest := {
        noQuote := hquotes
        noTerminator := fun ht => h.noTerminator (List.mem_cons_of_mem c ht)
        noComment := fun hc => h.noComment (hc.trans (List.suffix_cons c rest).isInfix)
      }
      refine ⟨fun _ => ⟨?_, ?_⟩, ?_⟩
      · rintro rfl
        exact h.noTerminator List.mem_cons_self
      · rintro rfl hhead
        cases rest with
        | nil => exact hd hhead
        | cons d rest =>
            obtain rfl : d = '-' := Option.some.inj hhead
            exact h.noComment ⟨[], rest, rfl⟩
      · rw [nextQuote_of_noQuote hquote]
        exact ih hrest

-----------------------------------------------------------------------------------------
-- Literals
-----------------------------------------------------------------------------------------

theorem nextQuote_opening (quote : Quote) : nextQuote none quote.char = some quote :=
  Quote.ofChar?_char quote

theorem nextQuote_closing (quote : Quote) : nextQuote (some quote) quote.char = none :=
  if_pos rfl

/-- A quote that opens a literal in front of a plain text. -/
theorem IsPlain.opening {quote : Quote} {text : List Char} (h : IsPlain (some quote) text)
    : IsPlain none (quote.char :: text) := by
  have hcode : quote.char ≠ ';' ∧ quote.char ≠ '-' := by cases quote <;> decide
  refine ⟨fun _ => ⟨hcode.1, fun hdash => absurd hdash hcode.2⟩, ?_⟩
  rw [nextQuote_opening]
  exact h

/-- A character of a literal, which may close it, in front of a plain text. -/
theorem IsPlain.inside {quote : Quote} {c : Char} {text : List Char}
    (h : IsPlain (nextQuote (some quote) c) text)
    : IsPlain (some quote) (c :: text) :=
  ⟨fun hq => absurd hq (Option.some_ne_none quote), h⟩

/-- The doubled value is plain inside the literal, which is still open after it. By induction on the
value: a doubled quote closes the literal and opens it again.
-/
theorem isPlain_doubled_append (quote : Quote) (value : List Char) {more : List Char}
    (h : IsPlain (some quote) more)
    : IsPlain (some quote)
        (value.flatMap (fun c => if c = quote.char then [c, c] else [c]) ++ more) := by
  induction value with
  | nil => exact h
  | cons c rest ih =>
      rw [List.flatMap_cons, List.append_assoc]
      by_cases hc : c = quote.char
      · subst hc
        rw [if_pos rfl]
        refine .inside ?_
        rw [nextQuote_closing]
        exact ih.opening
      · have hinside : nextQuote (some quote) c = some quote := if_neg hc
        rw [if_neg hc]
        refine .inside ?_
        rw [hinside]
        exact ih

theorem foldl_nextQuote_doubled (quote : Quote) (value : List Char)
    : (value.flatMap fun c => if c = quote.char then [c, c] else [c]).foldl nextQuote
        (some quote) = some quote := by
  induction value with
  | nil => rfl
  | cons c rest ih =>
      rw [List.flatMap_cons, List.foldl_append]
      by_cases hc : c = quote.char
      · subst hc
        simpa [nextQuote] using ih
      · simpa [nextQuote, hc] using ih

/-- A literal between bare code is plain. -/
theorem isPlain_enclose (quote : Quote) (value : List Char) {front back : List Char}
    (hf : IsBare front) (hb : IsBare back)
    : IsPlain none (front ++ quote.enclose value ++ back) := by
  have hback : IsPlain none (back ++ []) := hb.isPlain_append trivial (by simp)
  rw [List.append_nil] at hback
  have hend : IsPlain (some quote) (quote.char :: back) := .inside (nextQuote_closing quote ▸ hback)
  rw [List.append_assoc]
  refine hf.isPlain_append ?_ ?_
  · rw [Quote.enclose, List.cons_append, List.cons_append, List.append_assoc]
    exact (isPlain_doubled_append quote value hend).opening
  · have hdash : quote.char ≠ '-' := by cases quote <;> decide
    exact fun hd => hdash (Option.some.inj hd)

/-- No literal is open after a literal between bare code. -/
theorem foldl_nextQuote_enclose (quote : Quote) (value : List Char) {front back : List Char}
    (hf : IsBare front) (hb : IsBare back)
    : (front ++ quote.enclose value ++ back).foldl nextQuote none = none := by
  rw [List.foldl_append, List.foldl_append, foldl_nextQuote_of_noQuote hf.noQuote, Quote.enclose,
    List.cons_append, List.foldl_cons, nextQuote_opening, List.foldl_append,
    foldl_nextQuote_doubled, List.foldl_cons, nextQuote_closing, List.foldl_nil,
    foldl_nextQuote_of_noQuote hb.noQuote]

-----------------------------------------------------------------------------------------
-- Plain lines
-----------------------------------------------------------------------------------------

/-- A plain line is all code, and so is what is read after it, unless that starts with a dash. By
induction on the line.
-/
theorem IsPlain.beforeComment_append {quote : Option Quote} {line : List Char}
    (h : IsPlain quote line) {more : List Char} (hm : more.head? ≠ some '-')
    : beforeComment quote (line ++ more) =
        (line ++ (beforeComment (line.foldl nextQuote quote) more).1,
          (beforeComment (line.foldl nextQuote quote) more).2) := by
  induction line generalizing quote with
  | nil => rfl
  | cons c rest ih =>
      obtain ⟨hc, hrest⟩ := h
      have hstart : ∀ tail, quote = none → c = '-' → rest ++ more = '-' :: tail → False := by
        intro tail hq hd he
        cases rest with
        | nil => exact hm (by rw [← List.nil_append more, he]; rfl)
        | cons d rest => exact (hc hq).2 hd (congrArg some (List.cons.inj he).1)
      rw [List.cons_append, beforeComment.eq_3 _ _ _ hstart, ih hrest]
      rfl

/-- A plain line is gathered, and leaves that literal open in which it ends. -/
theorem IsPlain.line {quote : Option Quote} {line : List Char} (h : IsPlain quote line)
    : (quote.isNone && isCommentLine line) = false
      ∧ endsStatement quote line = false
      ∧ (scan quote line).2 = line.foldl nextQuote quote := by
  have hline : beforeComment quote (line ++ []) = (line ++ _, _) := h.beforeComment_append (by simp)
  rw [List.append_nil, beforeComment, List.append_nil] at hline
  refine ⟨?_, ?_, by rw [scan, hline]⟩
  · by_contra hpassed
    -- The line is not blank, yet all of it would be in the comment.
    obtain ⟨rfl, hscan⟩ := scan_of_passed (eq_true_of_ne_false hpassed)
    obtain ⟨blanks, rest, -, rfl⟩ := exists_of_isCommentLine ((Bool.and_eq_true _ _).mp
      (eq_true_of_ne_false hpassed)).2
    rw [scan, hline] at hscan
    have hblank := (trimEnd_eq_nil_iff _).mp (congrArg Prod.fst hscan) '-' (by simp)
    exact absurd hblank (by decide)
  · by_contra hends
    obtain ⟨code, hscan, hcode, -⟩ := exists_code_of_endsStatement (eq_true_of_ne_false hends)
    obtain ⟨blanks, -, he⟩ := exists_trimEnd line
    have hcut : trimEnd line = code ++ [';'] := by rw [← hscan, scan, hline]
    have hquote : code.foldl nextQuote quote = none := by
      have hsnd := beforeComment_snd quote code
      rw [hcode] at hsnd
      exact hsnd.symm
    -- The terminator stands outside literals, where a plain line has none.
    rw [he, hcut, List.append_assoc] at h
    exact (h.of_append.2.1 hquote).1 rfl

/-- The lines of a plain text are gathered, and the text after them is plain and read on from the
literal that they leave open. By induction on the lines.
-/
theorem IsPlain.gathered {quote : Option Quote} {lines : List (List Char)} {more : List Char}
    (h : IsPlain quote (writtenLines lines ++ more))
    : Gathered quote lines
      ∧ IsPlain (openAfter quote lines) more
      ∧ (writtenLines lines ++ more).foldl nextQuote quote =
          more.foldl nextQuote (openAfter quote lines) := by
  induction lines generalizing quote with
  | nil => exact ⟨gathered_nil quote, h, rfl⟩
  | cons line rest ih =>
      rw [writtenLines_cons, List.append_assoc, List.append_assoc, List.singleton_append] at h ⊢
      obtain ⟨hline, -, hrest⟩ := h.of_append
      obtain ⟨hpassed, hends, hquote⟩ := hline.line
      have hfeed : Quote.ofChar? '\n' = none := by simp [Quote.ofChar?]
      rw [nextQuote_of_noQuote hfeed, ← hquote] at hrest
      obtain ⟨hg, hmore, hopen⟩ := ih hrest
      refine ⟨⟨hpassed, hends, hg⟩, hmore, ?_⟩
      rw [List.foldl_append, List.foldl_cons, nextQuote_of_noQuote hfeed, ← hquote]
      exact hopen

/-- A plain line that ends outside literals ends a statement with a terminator after it. -/
theorem IsPlain.line_concat {quote : Option Quote} {line : List Char} (h : IsPlain quote line)
    (hq : line.foldl nextQuote quote = none)
    : (quote.isNone && isCommentLine (line ++ [';'])) = false
      ∧ endsStatement quote (line ++ [';']) = true
      ∧ (scan quote (line ++ [';'])).1 = line ++ [';'] := by
  have hscan : scan quote (line ++ [';']) = (line ++ [';'], none) := by
    rw [scan, h.beforeComment_append (by simp), beforeComment_terminator, hq]
    exact Prod.ext (trimEnd_concat (by decide) line) rfl
  refine ⟨?_, ?_, by rw [hscan]⟩
  · by_contra hpassed
    obtain ⟨rfl, hnone⟩ := scan_of_passed (eq_true_of_ne_false hpassed)
    rw [hscan] at hnone
    simp at hnone
  · rw [endsStatement_iff, hscan, endsWithTerminator, List.getLast?_concat]
    exact ⟨rfl, rfl⟩

/-- The last line decides whether a list of lines is complete. -/
theorem completeRest_concat (quote : Option Quote) (complete : Bool) (lines : List (List Char))
    (line : List Char)
    : completeRest quote complete (lines ++ [line]) =
        endsStatement (openAfter quote lines) line := by
  induction lines generalizing quote complete with
  | nil => rfl
  | cons first rest ih =>
      rw [List.cons_append, completeRest, ih]
      rfl

-----------------------------------------------------------------------------------------
-- Statements with a quoted value
-----------------------------------------------------------------------------------------

/-- A plain text that ends outside literals makes one statement with a terminator after it. -/
theorem IsPlain.split_concat {text : List Char} (h : IsPlain none text)
    (hq : text.foldl nextQuote none = none) (hl : ∀ c ∈ text, isLineEnd c = true → c = '\n')
    (hne : trim text ≠ [])
    : split (text ++ [';']) = [trim text] ∧ isComplete (text ++ [';']) = true := by
  obtain ⟨lines, line, hj, hlines, hline⟩ := exists_joinLines hl
  have htext : text = writtenLines lines ++ line := by rw [← hj, joinLines_concat_eq]
  rw [htext] at h hq
  obtain ⟨hg, hlast, hopen⟩ := h.gathered
  obtain ⟨hpassed, hends, hscan⟩ := hlast.line_concat (hopen.symm.trans hq)
  have hconcat : ∀ c ∈ line ++ [';'], isLineEnd c = false :=
    List.forall_mem_append.mpr ⟨hline, by simp; rfl⟩
  have hsplit : splitLines (text ++ [';']) = lines ++ [line ++ [';']] := by
    rw [htext, List.append_assoc, ← joinLines_concat_eq,
      splitLines_joinLines hlines hconcat (by simp)]
  refine ⟨?_, ?_⟩
  · rw [split, hsplit, hg.splitRest_append, List.nil_append, splitRest_cons, hpassed, hends,
      if_neg Bool.false_ne_true, if_pos rfl, hscan, ofLines?_terminated, hj,
      if_neg (mt List.isEmpty_iff.mp hne)]
    rfl
  · rw [isComplete, hsplit, completeRest_concat, hends]

/-- A literal has no characters but its quotes and those of its value. -/
theorem mem_of_mem_enclose {quote : Quote} {value : List Char} {c : Char}
    (h : c ∈ quote.enclose value)
    : c = quote.char ∨ c ∈ value := by
  rw [Quote.enclose, List.cons_append, List.mem_cons, List.mem_append, List.mem_flatMap] at h
  rcases h with rfl | ⟨d, hd, hc⟩ | hc
  · exact Or.inl rfl
  · split at hc
    · next he => exact Or.inl (by simpa [he] using hc)
    · exact Or.inr (by rwa [List.mem_singleton.mp hc])
  · exact Or.inl (List.mem_singleton.mp hc)

/-- Any value can be written into a statement as a literal: the statement is not cut, whatever
terminators, comment marks, quotes and line feeds the value has.
-/
theorem split_enclose (quote : Quote) (value : List Char) {front back : List Char}
    (hf : IsBare front) (hb : IsBare back)
    (hl : ∀ c ∈ front ++ value ++ back, isLineEnd c = true → c = '\n')
    : split (front ++ quote.enclose value ++ back ++ [';']) =
        [trim (front ++ quote.enclose value ++ back)]
      ∧ isComplete (front ++ quote.enclose value ++ back ++ [';']) = true := by
  have hquote : isLineEnd quote.char = false ∧ isBlank quote.char = false := by
    cases quote <;> decide
  refine (isPlain_enclose quote value hf hb).split_concat
    (foldl_nextQuote_enclose quote value hf hb) ?_ ?_
  · obtain ⟨hfront, hback⟩ := List.forall_mem_append.mp hl
    obtain ⟨hfront, hvalue⟩ := List.forall_mem_append.mp hfront
    refine List.forall_mem_append.mpr ⟨List.forall_mem_append.mpr ⟨hfront, ?_⟩, hback⟩
    intro c hc hend
    rcases mem_of_mem_enclose hc with rfl | hc
    · exact absurd (hquote.1.symm.trans hend) Bool.false_ne_true
    · exact hvalue c hc hend
  · intro hnil
    have hblank := (trim_eq_nil_iff _).mp hnil quote.char (by simp [Quote.enclose])
    exact absurd (hquote.2.symm.trans hblank) Bool.false_ne_true

/-- A value of terminators, comment lines, a blank line and quotes of both kinds. -/
theorem split_enclose_hostile_value
    : IsBare "INSERT -\n(".toList
      ∧ IsBare ")\n -".toList
      ∧ (∀ c ∈ "INSERT -\n(".toList ++ "';\n\n--'';\"--".toList ++ ")\n -".toList,
          isLineEnd c = true → c = '\n')
      ∧ split ("INSERT -\n(".toList ++ Quote.single.enclose "';\n\n--'';\"--".toList
            ++ ")\n -".toList ++ [';']) =
          [trim ("INSERT -\n(".toList ++ Quote.single.enclose "';\n\n--'';\"--".toList
            ++ ")\n -".toList)]
      ∧ isComplete ("INSERT -\n(".toList ++ Quote.single.enclose "';\n\n--'';\"--".toList
            ++ ")\n -".toList ++ [';']) = true := by
  have hf : IsBare "INSERT -\n(".toList :=
    ⟨by simp [Quote.ofChar?], by simp, by decide +kernel⟩
  have hb : IsBare ")\n -".toList :=
    ⟨by simp [Quote.ofChar?], by simp, by decide +kernel⟩
  have hl : ∀ c ∈ "INSERT -\n(".toList ++ "';\n\n--'';\"--".toList ++ ")\n -".toList,
      isLineEnd c = true → c = '\n' := by simp [isLineEnd]
  exact ⟨hf, hb, hl, split_enclose .single "';\n\n--'';\"--".toList hf hb hl⟩

end SqlShell.Statement
