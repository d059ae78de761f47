import SqlShell.Proofs.Statement.LiteralPreservation

/-! The code of a text: what its lines hold outside their comments. Scanning the lines one after
another finds it, and so does reading the whole text character by character. Blanks are left out,
so trimming a text and spelling its line ends in another way do not touch its code.
-/

namespace SqlShell.Statement

open SqlShell.Text

/-- A character of code that is not blank, and whether a literal was open before it. -/
structure CodeChar where
  char : Char
  inLiteral : Bool
  deriving DecidableEq, Repr

/-- The character as one of code, unless it is blank. -/
def CodeChar.ofChar? (inLiteral : Bool) (c : Char) : Option CodeChar :=
  if isBlank c then none else some ⟨c, inLiteral⟩

/-- The characters of a text that is all code, given the literal that is open at its start. -/
def codeChars : Option Quote → List Char → List CodeChar
  | _, [] => []
  | quote, c :: rest =>
      (CodeChar.ofChar? quote.isSome c).toList ++ codeChars (nextQuote quote c) rest

/-- The code of a line, given the literal that is open at its start. -/
def codeOfLine (quote : Option Quote) (line : List Char) : List CodeChar :=
  codeChars quote (scan quote line).1

/-- The code of lines, each of which starts in the literal that is open at the end of the one before
it.
-/
def codeOfLines : Option Quote → List (List Char) → List CodeChar
  | _, [] => []
  | quote, line :: lines => codeOfLine quote line ++ codeOfLines (scan quote line).2 lines

/-- The code of a text. -/
def codeOf (text : List Char) : List CodeChar :=
  codeOfLines none (splitLines text)

/-- The literal that is open after lines. -/
def openAfter (quote : Option Quote) (lines : List (List Char)) : Option Quote :=
  lines.foldl (fun quote line => (scan quote line).2) quote

namespace Place

/-- A lone dash as code. Before a second dash it is not known to be any. -/
def pending : Place → List CodeChar
  | .code true => [⟨'-', false⟩]
  | _ => []

/-- The code that is known at a character: the character itself, unless it may start a comment, and
the dash before it that starts none.
-/
def settled : Place → Char → List CodeChar
  | .code dash, c =>
      if c = '-' then [] else (code dash).pending ++ (CodeChar.ofChar? false c).toList
  | .literal _ _, c => (CodeChar.ofChar? true c).toList
  | .comment, _ => []

end Place

/-- The code of a text that is read from a place on. -/
def codeFrom : Place → List Char → List CodeChar
  | place, [] => place.pending
  | place, c :: rest => place.settled c ++ codeFrom (place.next c) rest

-----------------------------------------------------------------------------------------
-- Parts of lines
-----------------------------------------------------------------------------------------

theorem CodeChar.ofChar?_of_blank {c : Char} (h : isBlank c = true) (inLiteral : Bool)
    : ofChar? inLiteral c = none :=
  if_pos h

theorem CodeChar.ofChar?_of_not_blank {c : Char} (h : isBlank c = false) (inLiteral : Bool)
    : ofChar? inLiteral c = some ⟨c, inLiteral⟩ := by
  rw [ofChar?, if_neg (by simp [h])]

/-- The characters of code are those of the text that are not blank, by induction on the text. -/
theorem map_char_codeChars (quote : Option Quote) (text : List Char)
    : (codeChars quote text).map CodeChar.char = text.filter (!isBlank ·) := by
  induction text generalizing quote with
  | nil => rfl
  | cons c rest ih =>
      rw [codeChars, List.map_append, ih, List.filter_cons, CodeChar.ofChar?]
      cases isBlank c <;> rfl

/-- Blanks at the end of a text are no code, by induction on the text and on the blanks. -/
theorem codeChars_append_of_blank (quote : Option Quote) (text : List Char) {blanks : List Char}
    (h : ∀ c ∈ blanks, isBlank c = true)
    : codeChars quote (text ++ blanks) = codeChars quote text := by
  induction text generalizing quote with
  | nil =>
      have hnone := map_char_codeChars quote blanks
      rw [List.filter_eq_nil_iff.mpr (by simpa using h), List.map_eq_nil_iff] at hnone
      exact hnone
  | cons c rest ih => rw [List.cons_append, codeChars, ih, codeChars]

/-- The code of a line is that of its part before the comment: the blanks that the scan takes from
the end of this part are no code.
-/
theorem codeOfLine_eq (quote : Option Quote) (line : List Char)
    : codeOfLine quote line = codeChars quote (beforeComment quote line).1 := by
  obtain ⟨blanks, hb, he⟩ := exists_trimEnd (beforeComment quote line).1
  rw [he, codeChars_append_of_blank quote _ hb]
  rfl

/-- What precedes the comment of a line starts no comment, nor does a beginning of it. By induction
on the scan.
-/
theorem beforeComment_of_prefix {quote : Option Quote} {line text : List Char}
    (h : text <+: (beforeComment quote line).1)
    : (beforeComment quote text).1 = text := by
  fun_induction beforeComment quote line generalizing text with
  | case1 quote | case2 tail =>
      rw [List.prefix_nil.mp h, beforeComment]
  | case3 quote c rest hn kept after he ih =>
      rcases List.prefix_cons_iff.mp h with rfl | ⟨text, rfl, ht⟩
      · rw [beforeComment]
      · obtain ⟨comment, hc, _⟩ := beforeComment_append (nextQuote quote c) rest
        rw [he] at hc ih
        have hkept : ∀ tail, quote = none → c = '-' → text = '-' :: tail → False := by
          rintro tail hq hd rfl
          obtain ⟨more, rfl⟩ := ht
          exact hn _ hq hd hc
        rw [beforeComment.eq_3 _ _ _ hkept]
        exact congrArg _ (ih ht)

/-- The code part is a beginning of what precedes the comment, and this one of the line. -/
theorem isPrefix_scan (quote : Option Quote) (line : List Char)
    : (scan quote line).1 <+: (beforeComment quote line).1
      ∧ (beforeComment quote line).1 <+: line := by
  obtain ⟨comment, hline, -⟩ := beforeComment_append quote line
  exact ⟨isPrefix_trimEnd _, comment, hline.symm⟩

/-- Scanning the code of a line finds all of this code. -/
theorem codeOfLine_scan (quote : Option Quote) (line : List Char)
    : codeOfLine quote (scan quote line).1 = codeOfLine quote line := by
  rw [codeOfLine_eq, beforeComment_of_prefix (isPrefix_scan quote line).1, codeOfLine]

/-- The code of lines is that of the first ones and that of the other ones, which start in the
literal that is open after the first. By induction on the first ones.
-/
theorem codeOfLines_append (quote : Option Quote) (lines more : List (List Char))
    : codeOfLines quote (lines ++ more) =
        codeOfLines quote lines ++ codeOfLines (openAfter quote lines) more := by
  induction lines generalizing quote with
  | nil => rfl
  | cons line rest ih =>
      rw [List.cons_append, codeOfLines, ih, codeOfLines, List.append_assoc]
      rfl

theorem codeOfLines_concat (quote : Option Quote) (lines : List (List Char)) (line : List Char)
    : codeOfLines quote (lines ++ [line]) =
        codeOfLines quote lines ++ codeOfLine (openAfter quote lines) line := by
  rw [codeOfLines_append, codeOfLines, codeOfLines, List.append_nil]

theorem openAfter_concat (quote : Option Quote) (lines : List (List Char)) (line : List Char)
    : openAfter quote (lines ++ [line]) = (scan (openAfter quote lines) line).2 := by
  rw [openAfter, List.foldl_concat, openAfter]

/-- The lines after a line start in the literal that the scan finds open at its end. -/
theorem codeOfLines_append_cons (quote : Option Quote) (lines : List (List Char))
    (line : List Char) (more : List (List Char))
    : codeOfLines quote (lines ++ line :: more) =
        codeOfLines quote (lines ++ [line])
        ++ codeOfLines (scan (openAfter quote lines) line).2 more := by
  rw [List.append_cons, codeOfLines_append, openAfter_concat]

-----------------------------------------------------------------------------------------
-- Reading a text in parts
-----------------------------------------------------------------------------------------

/-- A blank makes a dash before it code, and after it no dash waits for a second one. -/
theorem settled_of_blank {c : Char} (h : isBlank c = true) (place : Place)
    : place.settled c = place.pending ∧ (place.next c).pending = [] := by
  obtain ⟨hq, hd⟩ := code_of_blank h
  cases place with
  | code dash =>
      rw [Place.settled, if_neg hd, CodeChar.ofChar?_of_blank h, Place.next, if_neg hd, hq]
      exact ⟨List.append_nil _, rfl⟩
  | literal quote inside =>
      rw [Place.settled, CodeChar.ofChar?_of_blank h, Place.next]
      split <;> exact ⟨rfl, rfl⟩
  | comment =>
      rw [Place.settled, Place.next]
      split <;> exact ⟨rfl, rfl⟩

/-- Blanks make a dash before them code and are none themselves, by induction on the blanks. -/
theorem codeFrom_of_blank {blanks : List Char} (h : ∀ c ∈ blanks, isBlank c = true)
    (place : Place)
    : codeFrom place blanks = place.pending := by
  induction blanks generalizing place with
  | nil => rfl
  | cons c rest ih =>
      obtain ⟨hs, hn⟩ := settled_of_blank (h c List.mem_cons_self) place
      rw [codeFrom, ih (fun d hm => h d (List.mem_cons_of_mem c hm)), hs, hn, List.append_nil]

/-- A text adds code with some property to the end of any text if it adds such code at every place
where that text may end. By induction on the text before it.
-/
theorem exists_codeFrom_append {more : List Char} {P : List CodeChar → Prop}
    (h : ∀ place, ∃ added, P added ∧ codeFrom place more = place.pending ++ added)
    (place : Place) (text : List Char)
    : ∃ added, P added ∧ codeFrom place (text ++ more) = codeFrom place text ++ added := by
  induction text generalizing place with
  | nil => exact h place
  | cons c rest ih =>
      obtain ⟨added, ha, he⟩ := ih (place.next c)
      exact ⟨added, ha, by rw [List.cons_append, codeFrom, he, codeFrom, List.append_assoc]⟩

/-- Blanks at the end of a text are no code. -/
theorem codeFrom_append_of_blank (place : Place) (text : List Char) {blanks : List Char}
    (h : ∀ c ∈ blanks, isBlank c = true)
    : codeFrom place (text ++ blanks) = codeFrom place text := by
  have hblanks : ∀ place : Place,
      ∃ added, added = [] ∧ codeFrom place blanks = place.pending ++ added :=
    fun place => ⟨[], rfl, by rw [codeFrom_of_blank h, List.append_nil]⟩
  obtain ⟨_, rfl, he⟩ := exists_codeFrom_append hblanks place text
  rw [he, List.append_nil]

/-- Blanks at the start of a text are no code, by induction on the blanks. -/
theorem codeFrom_start_append {blanks : List Char} (h : ∀ c ∈ blanks, isBlank c = true)
    (text : List Char)
    : codeFrom .start (blanks ++ text) = codeFrom .start text := by
  induction blanks with
  | nil => rfl
  | cons c rest ih =>
      have hc := h c List.mem_cons_self
      obtain ⟨hq, hd⟩ := code_of_blank hc
      rw [List.cons_append, codeFrom, Place.start, Place.settled, if_neg hd,
        CodeChar.ofChar?_of_blank hc, Place.next, if_neg hd, hq]
      exact ih fun d hm => h d (List.mem_cons_of_mem c hm)

/-- Trimming the end of a text leaves its code. -/
theorem codeFrom_trimEnd (place : Place) (text : List Char)
    : codeFrom place (trimEnd text) = codeFrom place text := by
  obtain ⟨blanks, hb, he⟩ := exists_trimEnd text
  conv => rhs; rw [he]
  exact (codeFrom_append_of_blank place _ hb).symm

/-- Trimming a text leaves its code. -/
theorem codeFrom_trim (text : List Char) : codeFrom .start (trim text) = codeFrom .start text := by
  obtain ⟨front, hf, he⟩ := exists_trimStart text
  conv => rhs; rw [he]
  rw [codeFrom_start_append hf, trim, codeFrom_trimEnd]

/-- A terminator at the end of a text adds nothing but itself to its code. -/
theorem codeFrom_append_terminator (place : Place) (text : List Char)
    : ∃ added, (∀ c ∈ added, c.char = ';')
        ∧ codeFrom place (text ++ [';']) = codeFrom place text ++ added := by
  refine exists_codeFrom_append (fun place => ?_) place text
  cases place with
  | code dash => exact ⟨[⟨';', false⟩], by simp, by cases dash <;> rfl⟩
  | literal quote inside =>
      refine ⟨[⟨';', true⟩], by simp, ?_⟩
      rw [codeFrom, codeFrom, Place.next]
      split <;> rfl
  | comment => exact ⟨[], by simp, rfl⟩

-----------------------------------------------------------------------------------------
-- Reading lines
-----------------------------------------------------------------------------------------

/-- A comment is no code up to the end of its line, by induction on the line. -/
theorem codeFrom_comment {text : List Char} (h : ∀ c ∈ text, isLineEnd c = false)
    (more : List Char)
    : codeFrom .comment (text ++ '\n' :: more) = codeFrom .start more := by
  induction text with
  | nil => rfl
  | cons c rest ih =>
      rw [List.cons_append, codeFrom, Place.next, if_neg (by simp [h c List.mem_cons_self])]
      exact ih fun d hd => h d (List.mem_cons_of_mem c hd)

/-- A character that starts no comment adds itself to the code, and so does a dash before it. -/
theorem Place.Follows.settled {place : Place} {quote : Option Quote} {c : Char} {rest : List Char}
    (h : place.Follows quote (c :: rest))
    : place.settled c ++ (place.next c).pending =
        place.pending ++ (CodeChar.ofChar? quote.isSome c).toList := by
  cases place with
  | comment => exact h.elim
  | literal open_ inside =>
      obtain rfl : quote = some open_ := h
      rw [Place.next]
      split <;> exact List.append_nil _
  | code dash =>
      obtain ⟨rfl, hd⟩ := h
      by_cases hc : c = '-'
      · subst hc
        cases dash with
        | false => rfl
        | true => exact absurd rfl (hd rfl)
      · rw [Place.settled, if_neg hc, Place.next, if_neg hc]
        cases Quote.ofChar? c <;> exact List.append_nil _

/-- A line adds the code that the scan finds in it. A dash that is read before the line is code, as
no second one follows it. By induction on the scan.
-/
theorem codeFrom_line {place : Place} {quote : Option Quote} {line : List Char}
    (h : place.Follows quote line) (hl : ∀ c ∈ line, isLineEnd c = false) (more : List Char)
    : codeFrom place (line ++ '\n' :: more) =
        place.pending ++ codeChars quote (beforeComment quote line).1
        ++ codeFrom (place.after (line ++ ['\n'])) more := by
  fun_induction beforeComment quote line generalizing place with
  | case1 quote =>
      cases place with
      | code dash => cases dash <;> rfl
      | literal open_ inside =>
          rw [List.nil_append, codeFrom]
          rfl
      | comment => exact h.elim
  | case2 tail =>
      have htail : ∀ c ∈ tail, isLineEnd c = false := fun c hc => hl c (by simp [hc])
      cases place with
      | comment => exact h.elim
      | literal open_ inside => exact absurd h.symm (Option.some_ne_none open_)
      | code dash =>
          obtain rfl : dash = false := by
            -- Three dashes in a row would have started the comment one dash earlier.
            by_contra hd
            exact h.2 (eq_true_of_ne_false hd) rfl
          exact (codeFrom_comment htail more).trans
            (congrArg (codeFrom · more) (read_comment htail).2.symm)
  | case3 quote c rest hn kept after he ih =>
      rw [he] at ih
      rw [List.cons_append, codeFrom, ih (h.next hn) fun d hd => hl d (List.mem_cons_of_mem c hd),
        codeChars, ← List.append_assoc, ← List.append_assoc, h.settled,
        List.append_assoc _ _ (codeChars _ _)]
      rfl

/-- Lines that are written one after another have the code that is found line by line, by induction
on the lines.
-/
theorem codeFrom_writtenLines {place : Place} {quote : Option Quote} {lines : List (List Char)}
    (h : place.StartsLine quote) (hl : ∀ line ∈ lines, ∀ c ∈ line, isLineEnd c = false)
    : codeFrom place (writtenLines lines) = codeOfLines quote lines := by
  induction lines generalizing place quote with
  | nil =>
      cases place with
      | code dash => rw [h.2]; rfl
      | literal open_ inside => rfl
      | comment => exact h.elim
  | cons line rest ih =>
      have hline : ∀ c ∈ line, isLineEnd c = false := hl line List.mem_cons_self
      have hrest : ∀ other ∈ rest, ∀ c ∈ other, isLineEnd c = false :=
        fun other ho => hl other (List.mem_cons_of_mem line ho)
      have hpending : place.pending = [] := by
        cases place with
        | code dash => rw [h.2]; rfl
        | literal open_ inside => rfl
        | comment => rfl
      rw [writtenLines_cons, List.append_assoc, List.singleton_append,
        codeFrom_line (h.follows line) hline, hpending, List.nil_append, ← codeOfLine_eq,
        ih (read_line h hline).2 hrest]
      rfl

-----------------------------------------------------------------------------------------
-- The code of a whole text
-----------------------------------------------------------------------------------------

/-- Reading the line ends inside a literal as line feeds does not change what is known at a
character, nor does reading it as a line feed if it is a line end.
-/
theorem settled_withNewlines (place : Place) (c : Char)
    : place.withNewlines.settled (if isLineEnd c then '\n' else c) = place.settled c := by
  have hpending : place.withNewlines.pending = place.pending := by
    cases place <;> rfl
  split
  · next hc =>
      rw [(settled_of_blank (isBlank_of_isLineEnd isLineEnd_newline) _).1, hpending,
        (settled_of_blank (isBlank_of_isLineEnd hc) place).1]
  · cases place <;> rfl

/-- Making the line ends of a text line feeds leaves its code, by induction on the text. -/
theorem codeFrom_toNewlines {place : Place} {text : List Char}
    (h : place.AfterReturn → text.head? ≠ some '\n')
    : codeFrom place.withNewlines (toNewlines text) = codeFrom place text := by
  fun_induction toNewlines text generalizing place with
  | case1 => cases place <;> rfl
  | case2 rest ih =>
      have hnext : ((place.next '\r').next '\n').AfterReturn → rest.head? ≠ some '\n' :=
        fun hp => absurd (eq_return_of_afterReturn hp) (by decide)
      have hr : isBlank '\r' = true := rfl
      -- Both characters are blank, and the two of them become one blank.
      have hfeed : ((place.next '\r').settled '\n') = [] := by
        rw [(settled_of_blank rfl _).1, (settled_of_blank hr place).2]
      have hsettled : place.withNewlines.settled '\n' = place.settled '\r' :=
        settled_withNewlines place '\r'
      rw [codeFrom, codeFrom, codeFrom, hfeed, hsettled, ← next_next_withNewlines, ih hnext]
      rfl
  | case3 c rest hn ih =>
      have hc : place.AfterReturn → c ≠ '\n' := fun hp he => h hp (by rw [he]; rfl)
      have hnext : (place.next c).AfterReturn → rest.head? ≠ some '\n' := by
        intro hp he
        obtain ⟨tail, rfl⟩ := List.head?_eq_some_iff.mp he
        exact hn tail (eq_return_of_afterReturn hp) rfl
      rw [codeFrom, codeFrom, settled_withNewlines, next_withNewlines hc, ih hnext]

/-- Scanning a text line by line and reading it character by character find the same code. -/
theorem codeOf_eq_codeFrom (text : List Char) : codeOf text = codeFrom .start text := by
  obtain ⟨tail, ht, hw⟩ := writtenLines_splitLines text
  have hlines : ∀ line ∈ splitLines text, ∀ c ∈ line, isLineEnd c = false :=
    fun _ hl _ hc => isLineEnd_eq_false_of_mem_splitLines hl hc
  have htail : ∀ c ∈ tail, isBlank c = true := by
    rcases ht with rfl | rfl <;> simp [isBlank_of_isLineEnd isLineEnd_newline]
  have hstart : Place.start.AfterReturn → text.head? ≠ some '\n' := fun hp => hp.elim
  calc codeOf text
      = codeFrom .start (writtenLines (splitLines text)) :=
        (codeFrom_writtenLines Place.start_startsLine hlines).symm
    _ = codeFrom .start (toNewlines text) := by rw [hw, codeFrom_append_of_blank .start _ htail]
    _ = codeFrom .start text := codeFrom_toNewlines hstart

end SqlShell.Statement
