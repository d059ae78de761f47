import SqlShell.Proofs.Statement.LiteralReading

/-! Dividing a text into statements keeps its literals, in order and each once, but for the spelling
of line ends inside them: these become line feeds.
-/

namespace SqlShell.Statement

open SqlShell.Text

-----------------------------------------------------------------------------------------
-- The literals of one statement
-----------------------------------------------------------------------------------------

/-- The terminator that a statement loses closes no literal. -/
theorem literals_dropTerminator {text : List Char} (h : endsWithTerminator text = true)
    : literals text.dropLast = literals text := by
  have hl : text.getLast? = some ';' := by
    simpa only [endsWithTerminator, beq_iff_eq] using h
  obtain ⟨body, rfl⟩ := List.getLast?_eq_some_iff.mp hl
  rw [List.dropLast_concat, literals, literals,
    literalsFrom_append_of_noQuote _ _ (by simp [Quote.ofChar?])]

/-- Trimming the end of a text changes none of its literals. -/
theorem literals_trimEnd (text : List Char) : literals (trimEnd text) = literals text := by
  obtain ⟨blanks, hb, he⟩ := exists_trimEnd text
  conv => rhs; rw [he]
  exact (literalsFrom_append_of_noQuote _ _ (noQuote_of_blank hb)).symm

/-- A line feed at the end of a text closes no literal. -/
theorem literalsFrom_newline (place : Place) (text : List Char)
    : literalsFrom place (text ++ ['\n']) = literalsFrom place text :=
  literalsFrom_append_of_noQuote place text (by simp [Quote.ofChar?])

/-- A statement has the literals of the lines that were collected for it. If these make no
statement, they have none.
-/
theorem literals_ofLines? (lines : List (List Char))
    : (ofLines? lines).toList.flatMap literals = literals (writtenLines lines) := by
  have hjoin : literals (writtenLines lines) = literals (joinLines lines) := by
    by_cases hne : lines = []
    · subst hne
      rfl
    · rw [writtenLines_eq_joinLines hne]
      exact literalsFrom_newline .start _
  generalize hb :
    (if endsWithTerminator (trim (joinLines lines)) then
      trimEnd (trim (joinLines lines)).dropLast
    else trim (joinLines lines)) = body
  have hbody : literals body = literals (joinLines lines) := by
    rw [← hb]
    split
    · next ht => rw [literals_trimEnd, literals_dropTerminator ht, literals_trim]
    · exact literals_trim _
  have hof : ofLines? lines = if body.isEmpty then none else some body := by
    rw [← hb, ofLines?]
  rw [hjoin, ← hbody, hof]
  cases body with
  | nil => rfl
  | cons c rest => simp

-----------------------------------------------------------------------------------------
-- The literals of all statements
-----------------------------------------------------------------------------------------

/-- The place after one more line is where a reader stands at the start of the line after it. -/
theorem startsLine_concat {quote : Option Quote} {collected : List (List Char)}
    {line : List Char}
    (h : (Place.start.after (writtenLines collected)).StartsLine quote)
    (hl : ∀ c ∈ line, isLineEnd c = false)
    : (Place.start.after (writtenLines (collected ++ [line]))).StartsLine (scan quote line).2 := by
  have hw : writtenLines (collected ++ [line]) = writtenLines collected ++ (line ++ ['\n']) := by
    rw [writtenLines_append, writtenLines_cons]
    exact congrArg _ (List.append_nil _)
  rw [hw, Place.after_append]
  exact (read_line h hl).2

/-- The literals of lines are those of the first ones, those that the code of the next line closes,
and those of the other ones.
-/
theorem literals_writtenLines_cons {quote : Option Quote} {collected : List (List Char)}
    {line : List Char} (lines : List (List Char))
    (h : (Place.start.after (writtenLines collected)).StartsLine quote)
    (hl : ∀ c ∈ line, isLineEnd c = false)
    : literals (writtenLines (collected ++ line :: lines)) =
        literals (writtenLines (collected ++ [(scan quote line).1]))
        ++ literalsFrom (Place.start.after (writtenLines (collected ++ [line])))
          (writtenLines lines) := by
  have hcode : ∀ place, literalsFrom place (beforeComment quote line).1 =
      literalsFrom place (scan quote line).1 := by
    intro place
    obtain ⟨blanks, hb, he⟩ := exists_trimEnd (beforeComment quote line).1
    conv => lhs; rw [he]
    exact literalsFrom_append_of_noQuote _ _ (noQuote_of_blank hb)
  have hline : ∀ text : List Char, writtenLines (collected ++ [text]) =
      writtenLines collected ++ (text ++ ['\n']) := by
    intro text
    rw [writtenLines_append, writtenLines_cons]
    exact congrArg _ (List.append_nil _)
  rw [List.append_cons, writtenLines_append, literals, literalsFrom_append, hline, hline,
    literalsFrom_append, (read_line h hl).1, hcode, literals, literalsFrom_append,
    literalsFrom_newline]

/-- A line that is only a comment adds no literal, wherever the other lines end. -/
theorem literals_writtenLines_passed {collected : List (List Char)} {line : List Char}
    (lines : List (List Char))
    (h : (Place.start.after (writtenLines collected)).StartsLine none)
    (hl : ∀ c ∈ line, isLineEnd c = false) (hs : scan none line = ([], none))
    : literals (writtenLines (collected ++ line :: lines)) =
        literals (writtenLines (collected ++ lines)) := by
  have hnext := startsLine_concat h hl
  rw [hs] at hnext
  have hblank : literals (writtenLines (collected ++ [[]])) =
      literals (writtenLines collected) := by
    rw [writtenLines_append]
    exact literalsFrom_newline .start _
  rw [literals_writtenLines_cons lines h hl, hnext.eq_start, hs, hblank, writtenLines_append,
    literals, literals, literalsFrom_append, h.eq_start]

/-- The statements of the remaining lines have the literals of the collected and the remaining
lines, by induction on the latter. The literal that is open before a line is the one in which the
collected lines end.
-/
theorem literals_splitRest {quote : Option Quote} {collected lines : List (List Char)}
    (h : (Place.start.after (writtenLines collected)).StartsLine quote)
    (hl : ∀ line ∈ lines, ∀ c ∈ line, isLineEnd c = false)
    : (splitRest quote collected lines).flatMap literals =
        literals (writtenLines (collected ++ lines)) := by
  induction lines generalizing quote collected with
  | nil => rw [splitRest, literals_ofLines?, List.append_nil]
  | cons line rest ih =>
      have hline : ∀ c ∈ line, isLineEnd c = false := hl line List.mem_cons_self
      have hrest : ∀ other ∈ rest, ∀ c ∈ other, isLineEnd c = false :=
        fun other ho => hl other (List.mem_cons_of_mem line ho)
      have hnext := startsLine_concat h hline
      rw [splitRest_cons]
      split
      · next hpassed =>
          obtain ⟨rfl, hs⟩ := scan_of_passed hpassed
          rw [ih h hrest, literals_writtenLines_passed rest h hline hs]
      · split
        · next hends =>
            rw [(endsStatement_iff.mp hends).1] at hnext
            have hstart : (Place.start.after (writtenLines [])).StartsLine none :=
              Place.start_startsLine
            rw [List.flatMap_append, literals_ofLines?, ih hstart hrest, List.nil_append,
              literals_writtenLines_cons rest h hline, hnext.eq_start, literals]
            rfl
        · rw [ih hnext hrest, ← List.append_cons]

-----------------------------------------------------------------------------------------
-- The spelling of line ends
-----------------------------------------------------------------------------------------

/-- The literal with each line end inside it made a line feed. -/
def Literal.withNewlines (literal : Literal) : Literal :=
  ⟨literal.quote, toNewlines literal.text⟩

/-- The place with each line end in what was read of a literal made a line feed. -/
def Place.withNewlines : Place → Place
  | .literal quote inside => .literal quote (toNewlines inside)
  | place => place

/-- A place inside a literal of which a carriage return was read last. A line feed that follows
belongs to the same line end.
-/
def Place.AfterReturn : Place → Prop
  | .literal _ inside => inside.getLast? = some '\r'
  | _ => False

/-- A line end opens no literal and is no dash. -/
theorem code_of_isLineEnd {c : Char} (h : isLineEnd c = true)
    : Quote.ofChar? c = none ∧ c ≠ '-' :=
  code_of_blank (isBlank_of_isLineEnd h)

/-- A line end closes no literal. -/
theorem ne_char_of_isLineEnd {c : Char} (h : isLineEnd c = true) (quote : Quote)
    : c ≠ quote.char := by
  rintro rfl
  have hq := (code_of_isLineEnd h).1
  rw [Quote.ofChar?_char] at hq
  exact absurd hq (Option.some_ne_none quote)

/-- A character closes the same literal when the line ends are made line feeds. -/
theorem closed?_withNewlines (place : Place) (c : Char)
    : place.withNewlines.closed? (if isLineEnd c then '\n' else c) =
        (place.closed? c).map Literal.withNewlines := by
  cases place with
  | code | comment => rfl
  | literal quote inside =>
      rw [Place.withNewlines, Place.closed?, Place.closed?]
      by_cases hc : isLineEnd c = true
      · rw [if_pos hc, if_neg (ne_char_of_isLineEnd rfl quote),
          if_neg (ne_char_of_isLineEnd hc quote)]
        rfl
      · rw [if_neg hc]
        split <;> rfl

/-- A character leads to the same place when the line ends are made line feeds, unless it is a line
feed that belongs to the line end before it.
-/
theorem next_withNewlines {place : Place} {c : Char} (h : place.AfterReturn → c ≠ '\n')
    : place.withNewlines.next (if isLineEnd c then '\n' else c) =
        (place.next c).withNewlines := by
  cases place with
  | code dash =>
      by_cases hc : isLineEnd c = true
      · obtain ⟨hq, hd⟩ := code_of_isLineEnd hc
        rw [if_pos hc, Place.next, if_neg hd, hq]
        rfl
      · rw [if_neg hc, Place.withNewlines, Place.next]
        · split
          · split <;> rfl
          · split <;> rfl
        · simp
  | literal quote inside =>
      have hs : toNewlines (inside ++ [c]) = toNewlines inside ++ toNewlines [c] :=
        toNewlines_append fun hl he => h hl (Option.some.inj he)
      have hone : toNewlines [c] = [if isLineEnd c then '\n' else c] :=
        toNewlines.eq_3 c [] (by simp)
      rw [Place.withNewlines, Place.next, Place.next]
      by_cases hc : isLineEnd c = true
      · rw [if_pos hc, if_neg (ne_char_of_isLineEnd rfl quote),
          if_neg (ne_char_of_isLineEnd hc quote), Place.withNewlines, hs, hone, if_pos hc]
      · rw [if_neg hc]
        split
        · rfl
        · rw [Place.withNewlines, hs, hone, if_neg hc]
  | comment =>
      by_cases hc : isLineEnd c = true
      · rw [if_pos hc, Place.next, if_pos hc]
        rfl
      · rw [if_neg hc, Place.withNewlines, Place.next, if_neg hc]
        · rfl
        · simp

/-- A line end closes no literal, by cases of the place. -/
theorem closed?_of_isLineEnd {c : Char} (h : isLineEnd c = true) (place : Place)
    : place.closed? c = none := by
  cases place with
  | code | comment => rfl
  | literal quote inside => rw [Place.closed?, if_neg (ne_char_of_isLineEnd h quote)]

/-- A character leads to a place after a carriage return only if it is one. -/
theorem eq_return_of_afterReturn {place : Place} {c : Char} (h : (place.next c).AfterReturn)
    : c = '\r' := by
  cases place with
  | code dash =>
      rw [Place.next] at h
      split at h
      · split at h <;> exact h.elim
      · split at h
        · exact absurd h (by simp [Place.AfterReturn])
        · exact h.elim
  | literal quote inside =>
      rw [Place.next] at h
      split at h
      · exact h.elim
      · rw [Place.AfterReturn, List.getLast?_concat] at h
        exact Option.some.inj h
  | comment =>
      rw [Place.next] at h
      split at h <;> exact h.elim

/-- A carriage return and a line feed lead where one line feed leads when the line ends are made
line feeds.
-/
theorem next_next_withNewlines (place : Place)
    : ((place.next '\r').next '\n').withNewlines = place.withNewlines.next '\n' := by
  cases place with
  | code | comment => rfl
  | literal quote inside =>
      have hs : toNewlines (inside ++ ['\r', '\n']) = toNewlines inside ++ ['\n'] :=
        toNewlines_append fun _ => by simp
      rw [Place.next, if_neg (ne_char_of_isLineEnd rfl quote), Place.next,
        if_neg (ne_char_of_isLineEnd rfl quote), Place.withNewlines, Place.withNewlines, Place.next,
        if_neg (ne_char_of_isLineEnd rfl quote), List.append_assoc, List.singleton_append, hs]

/-- Making the line ends of a text line feeds makes those inside its literals line feeds, and
changes its literals in no other way. By induction on the text.
-/
theorem literalsFrom_toNewlines {place : Place} {text : List Char}
    (h : place.AfterReturn → text.head? ≠ some '\n')
    : literalsFrom place.withNewlines (toNewlines text) =
        (literalsFrom place text).map Literal.withNewlines := by
  fun_induction toNewlines text generalizing place with
  | case1 => rfl
  | case2 rest ih =>
      have hnext : ((place.next '\r').next '\n').AfterReturn → rest.head? ≠ some '\n' :=
        fun hp => absurd (eq_return_of_afterReturn hp) (by decide)
      rw [literalsFrom, literalsFrom, literalsFrom, closed?_of_isLineEnd rfl,
        closed?_of_isLineEnd rfl, closed?_of_isLineEnd rfl, ← next_next_withNewlines, ih hnext]
      rfl
  | case3 c rest hn ih =>
      have hc : place.AfterReturn → c ≠ '\n' := fun hp he => h hp (by rw [he]; rfl)
      have hnext : (place.next c).AfterReturn → rest.head? ≠ some '\n' := by
        intro hp he
        obtain ⟨tail, rfl⟩ := List.head?_eq_some_iff.mp he
        exact hn tail (eq_return_of_afterReturn hp) rfl
      rw [literalsFrom, literalsFrom, closed?_withNewlines, next_withNewlines hc, ih hnext,
        List.map_append]
      cases place.closed? c <;> rfl

-----------------------------------------------------------------------------------------
-- The literals of a script
-----------------------------------------------------------------------------------------

/-- The statements of a script have the literals of the script, in order and each once, with the
line ends inside them made line feeds.
-/
theorem literals_split (content : List Char)
    : (split content).flatMap literals = (literals content).map Literal.withNewlines := by
  obtain ⟨tail, ht, hw⟩ := writtenLines_splitLines content
  have hstart : (Place.start.after (writtenLines [])).StartsLine none := Place.start_startsLine
  have hstarts : Place.start.AfterReturn → content.head? ≠ some '\n' := fun hp => hp.elim
  have hspelled : literals (toNewlines content) = (literals content).map Literal.withNewlines :=
    literalsFrom_toNewlines hstarts
  rw [split, literals_splitRest hstart fun _ hl _ hc => isLineEnd_eq_false_of_mem_splitLines hl hc,
    List.nil_append, hw, ← hspelled]
  rcases ht with rfl | rfl
  · rw [List.append_nil]
  · exact literalsFrom_newline .start _

/-- A literal is spelled with line feeds already exactly if these are its only line ends. -/
theorem withNewlines_eq_self_iff (literal : Literal)
    : literal.withNewlines = literal ↔ ∀ c ∈ literal.text, isLineEnd c = true → c = '\n' := by
  rw [← toNewlines_eq_self_iff]
  exact ⟨fun h => congrArg Literal.text h, fun h => by rw [Literal.withNewlines, h]⟩

/-- The literals of a script reach its statements in order and each once, with the line ends inside
them made line feeds. So they reach them character for character exactly if line feeds are the only
line ends inside them.
-/
theorem literals_reach_statements (content : List Char)
    : (split content).flatMap literals = (literals content).map Literal.withNewlines
      ∧ ((split content).flatMap literals = literals content
        ↔ ∀ literal ∈ literals content, ∀ c ∈ literal.text, isLineEnd c = true → c = '\n') := by
  refine ⟨literals_split content, ?_⟩
  have hid : (literals content).map Literal.withNewlines = (literals content).map id
      ↔ ∀ literal ∈ literals content, literal.withNewlines = literal :=
    List.map_inj_left
  rw [List.map_id] at hid
  rw [literals_split, hid]
  exact forall₂_congr fun literal _ => withNewlines_eq_self_iff literal

/-- A line separator in a literal of a statement reaches the statement as a line feed. -/
theorem literals_reach_statements_not_verbatim
    : Place.start.after "SELECT 'a\u2028b';".toList = .start
      ∧ literals "SELECT 'a\u2028b';".toList = [⟨.single, "a\u2028b".toList⟩]
      ∧ (split "SELECT 'a\u2028b';".toList).flatMap literals = [⟨.single, "a\nb".toList⟩] := by
  decide +kernel

end SqlShell.Statement
