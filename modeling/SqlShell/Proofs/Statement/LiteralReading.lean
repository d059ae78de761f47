import SqlShell.Proofs.Statement.LineScanning
import SqlShell.Proofs.Text.LineSpelling

/-! Reading a whole text character by character, without cutting it into lines: the literals that
it closes, and the place where it ends. On a line this reading and the scan agree.
-/

namespace SqlShell.Statement

open SqlShell.Text

/-- A quoted literal: its quotes, and every character between them. -/
structure Literal where
  quote : Quote
  text : List Char
  deriving DecidableEq, Repr

/-- Where a reader stands: in code, perhaps after one dash, inside a literal of which some
characters have been read, or in a comment.
-/
inductive Place where
  | code (dash : Bool)
  | literal (quote : Quote) (inside : List Char)
  | comment
  deriving DecidableEq, Repr

namespace Place

/-- The start of a text. -/
def start : Place :=
  .code false

/-- Where a character leads. A second dash starts a comment, which ends with its line, while a
literal ends with its own quote only.
-/
def next : Place → Char → Place
  | .code dash, c =>
      if c = '-' then (if dash then .comment else .code true)
      else
        match Quote.ofChar? c with
        | some quote => .literal quote []
        | none => start
  | .literal quote inside, c =>
      if c = quote.char then start else .literal quote (inside ++ [c])
  | .comment, c => if isLineEnd c then start else .comment

/-- The literal that a character closes. -/
def closed? : Place → Char → Option Literal
  | .literal quote inside, c => if c = quote.char then some ⟨quote, inside⟩ else none
  | _, _ => none

/-- The place after a text. -/
def after (place : Place) (text : List Char) : Place :=
  text.foldl next place

/-- A reader stands where the scan of the rest of a line stands: inside the literal that is open,
or in code, and then not after the first of two dashes.
-/
def Follows (place : Place) (quote : Option Quote) (line : List Char) : Prop :=
  match place with
  | .code dash => quote = none ∧ (dash = true → line.head? ≠ some '-')
  | .literal open_ _ => quote = some open_
  | .comment => False

/-- A reader stands at the start of a line: inside the literal that is open, or in code. -/
def StartsLine (place : Place) (quote : Option Quote) : Prop :=
  match place with
  | .code dash => quote = none ∧ dash = false
  | .literal open_ _ => quote = some open_
  | .comment => False

/-- A text starts outside literals. -/
theorem start_startsLine : start.StartsLine none :=
  ⟨rfl, rfl⟩

/-- Outside literals the start of a line is like the start of a text. -/
theorem StartsLine.eq_start {place : Place} (h : place.StartsLine none) : place = start := by
  cases place with
  | code dash => rw [h.2, start]
  | literal quote inside => exact absurd h.symm (Option.some_ne_none quote)
  | comment => exact h.elim

/-- At the start of a line a reader stands where the scan of the whole line stands. -/
theorem StartsLine.follows {place : Place} {quote : Option Quote} (h : place.StartsLine quote)
    (line : List Char)
    : place.Follows quote line := by
  cases place with
  | code dash => exact ⟨h.1, fun hd => absurd (hd.symm.trans h.2) (by decide)⟩
  | literal open_ inside => exact h
  | comment => exact h

/-- Reading two texts one after the other ends where reading the second ends. -/
theorem after_append (place : Place) (text more : List Char)
    : place.after (text ++ more) = (place.after text).after more :=
  List.foldl_append

end Place

/-- The literals that a text closes, from a place on. -/
def literalsFrom : Place → List Char → List Literal
  | _, [] => []
  | place, c :: rest => (place.closed? c).toList ++ literalsFrom (place.next c) rest

/-- The literals of a text in order. A literal that is still open at the end is none of them. -/
def literals (text : List Char) : List Literal :=
  literalsFrom .start text

-----------------------------------------------------------------------------------------
-- Reading a text in parts
-----------------------------------------------------------------------------------------

/-- The literals of two texts are those of the first and those of the second read from where the
first ends, by induction.
-/
theorem literalsFrom_append (place : Place) (text more : List Char)
    : literalsFrom place (text ++ more) =
        literalsFrom place text ++ literalsFrom (place.after text) more := by
  induction text generalizing place with
  | nil => rfl
  | cons c rest ih =>
      rw [List.cons_append, literalsFrom, ih, literalsFrom, List.append_assoc]
      rfl

/-- A text without quotes closes no literal, wherever it is read, by induction. -/
theorem literalsFrom_of_noQuote {text : List Char} (h : ∀ c ∈ text, Quote.ofChar? c = none)
    (place : Place)
    : literalsFrom place text = [] := by
  induction text generalizing place with
  | nil => rfl
  | cons c rest ih =>
      have hc : place.closed? c = none := by
        cases place with
        | code | comment => rfl
        | literal quote inside =>
            rw [Place.closed?, if_neg]
            rintro rfl
            have hq := h quote.char List.mem_cons_self
            rw [Quote.ofChar?_char] at hq
            exact absurd hq (Option.some_ne_none quote)
      rw [literalsFrom, hc, ih fun d hd => h d (List.mem_cons_of_mem c hd)]
      rfl

/-- Text without quotes at the end of a text adds no literal. -/
theorem literalsFrom_append_of_noQuote (place : Place) (text : List Char) {more : List Char}
    (h : ∀ c ∈ more, Quote.ofChar? c = none)
    : literalsFrom place (text ++ more) = literalsFrom place text := by
  rw [literalsFrom_append, literalsFrom_of_noQuote h, List.append_nil]

/-- No blank is a quote. -/
theorem noQuote_of_blank {text : List Char} (h : ∀ c ∈ text, isBlank c = true)
    : ∀ c ∈ text, Quote.ofChar? c = none :=
  fun c hc => (code_of_blank (h c hc)).1

/-- Blanks at the start of a text leave a reader at the start, by induction. -/
theorem after_of_blank {text : List Char} (h : ∀ c ∈ text, isBlank c = true)
    : Place.start.after text = .start := by
  induction text with
  | nil => rfl
  | cons c rest ih =>
      obtain ⟨hq, hd⟩ := code_of_blank (h c List.mem_cons_self)
      have hn : Place.start.next c = .start := by
        rw [Place.start, Place.next, if_neg hd, hq]
        rfl
      rw [Place.after, List.foldl_cons, hn]
      exact ih fun d hm => h d (List.mem_cons_of_mem c hm)

/-- Trimming a text changes none of its literals. -/
theorem literals_trim (text : List Char) : literals (trim text) = literals text := by
  obtain ⟨front, hf, he⟩ := exists_trimStart text
  obtain ⟨back, hb, hs⟩ := exists_trimEnd (trimStart text)
  have hfront : literals text = literals (trimStart text) := by
    rw [he, literals, literalsFrom_append, literalsFrom_of_noQuote (noQuote_of_blank hf),
      after_of_blank hf, List.nil_append, ← he, literals]
  have hback : literals (trimStart text) = literals (trimEnd (trimStart text)) := by
    conv => lhs; rw [hs]
    exact literalsFrom_append_of_noQuote _ _ (noQuote_of_blank hb)
  rw [trim, hfront, hback]

-----------------------------------------------------------------------------------------
-- Reading a line
-----------------------------------------------------------------------------------------

/-- A line is the part before its comment, followed by nothing or, outside literals, by two dashes
and the rest of the comment. By induction on the scan.
-/
theorem beforeComment_append (quote : Option Quote) (line : List Char)
    : ∃ comment,
        line = (beforeComment quote line).1 ++ comment
        ∧ (comment = []
          ∨ (beforeComment quote line).2 = none ∧ ∃ tail, comment = '-' :: '-' :: tail) := by
  fun_induction beforeComment quote line with
  | case1 quote => exact ⟨[], rfl, Or.inl rfl⟩
  | case2 tail => exact ⟨'-' :: '-' :: tail, rfl, Or.inr ⟨rfl, tail, rfl⟩⟩
  | case3 quote c rest hn kept after he ih =>
      obtain ⟨comment, hc, ht⟩ := ih
      rw [he] at hc ht
      exact ⟨comment, by rw [hc, List.cons_append], ht⟩

/-- A character that starts no comment leads a reader to where it leads the scan, by cases of the
place: the place after a lone dash is one in code.
-/
theorem Place.Follows.next {place : Place} {quote : Option Quote} {c : Char} {rest : List Char}
    (h : place.Follows quote (c :: rest))
    (hn : ∀ tail, quote = none → c = '-' → rest = '-' :: tail → False)
    : (place.next c).Follows (nextQuote quote c) rest := by
  cases place with
  | comment => exact h.elim
  | literal open_ inside =>
      obtain rfl : quote = some open_ := h
      by_cases hc : c = open_.char
      · simp [Place.next, nextQuote, hc, Place.Follows, Place.start]
      · simp [Place.next, nextQuote, hc, Place.Follows]
  | code dash =>
      obtain ⟨rfl, hd⟩ := h
      by_cases hc : c = '-'
      · subst hc
        have hf : dash = false := by
          by_contra hd'
          exact hd (eq_true_of_ne_false hd') rfl
        subst hf
        refine ⟨rfl, fun _ hr => ?_⟩
        cases rest with
        | nil => simp at hr
        | cons d tail => exact hn tail rfl rfl (by rw [Option.some.inj hr])
      · rw [Place.next, if_neg hc, nextQuote]
        cases Quote.ofChar? c with
        | none => exact ⟨rfl, fun hd => absurd hd (by decide)⟩
        | some quote => rfl

/-- Reading the part of a line before its comment ends in the literal that the scan finds open at
the end of the line, by induction on the scan.
-/
theorem after_beforeComment {place : Place} {quote : Option Quote} {line : List Char}
    (h : place.Follows quote line)
    : (place.after (beforeComment quote line).1).Follows (beforeComment quote line).2 [] := by
  fun_induction beforeComment quote line generalizing place with
  | case1 quote => exact h
  | case2 tail =>
      cases place with
      | code dash => exact ⟨h.1, fun _ => by simp⟩
      | literal open_ inside => exact h
      | comment => exact h
  | case3 quote c rest hn kept after he ih =>
      rw [he] at ih
      exact ih (h.next hn)

/-- A comment closes no literal and ends with its line, by induction on the line. -/
theorem read_comment {text : List Char} (h : ∀ c ∈ text, isLineEnd c = false)
    : literalsFrom .comment (text ++ ['\n']) = []
      ∧ Place.comment.after (text ++ ['\n']) = .start := by
  induction text with
  | nil => exact ⟨rfl, rfl⟩
  | cons c rest ih =>
      have hn : Place.comment.next c = .comment := by
        simp [Place.next, h c List.mem_cons_self]
      obtain ⟨hl, ha⟩ := ih fun d hd => h d (List.mem_cons_of_mem c hd)
      refine ⟨?_, ?_⟩
      · rw [List.cons_append, literalsFrom, hn, hl]
        rfl
      · rw [List.cons_append, Place.after, List.foldl_cons, hn]
        exact ha

/-- Two dashes in code lead into a comment, even after a dash. -/
theorem Place.after_dashes (dash : Bool)
    : (Place.code dash).after ['-', '-'] = .comment := by
  cases dash <;> rfl

/-- A line closes the literals that the part before its comment closes, and the literal that the
scan finds open at its end is open at the start of the next line.
-/
theorem read_line {place : Place} {quote : Option Quote} {line : List Char}
    (h : place.StartsLine quote) (hl : ∀ c ∈ line, isLineEnd c = false)
    : literalsFrom place (line ++ ['\n']) = literalsFrom place (beforeComment quote line).1
      ∧ (place.after (line ++ ['\n'])).StartsLine (beforeComment quote line).2 := by
  obtain ⟨comment, he, ht⟩ := beforeComment_append quote line
  have hf := after_beforeComment (h.follows line)
  generalize hp : place.after (beforeComment quote line).1 = stop at hf
  have hread : literalsFrom stop (comment ++ ['\n']) = []
      ∧ (stop.after (comment ++ ['\n'])).StartsLine (beforeComment quote line).2 := by
    rcases ht with rfl | ⟨hq, tail, rfl⟩
    · refine ⟨literalsFrom_of_noQuote (by simp [Quote.ofChar?]) stop, ?_⟩
      cases stop with
      | code dash => exact ⟨hf.1, rfl⟩
      | literal open_ inside =>
          have hc : '\n' ≠ open_.char := by cases open_ <;> decide
          have hn : (Place.literal open_ inside).next '\n' = .literal open_ (inside ++ ['\n']) := by
            rw [Place.next, if_neg hc]
          rw [List.nil_append, Place.after, List.foldl_cons, hn]
          exact hf
      | comment => exact hf.elim
    · rw [hq] at hf ⊢
      cases stop with
      | literal open_ inside => exact absurd hf.symm (Option.some_ne_none open_)
      | comment => exact hf.elim
      | code dash =>
          have htail : ∀ c ∈ tail, isLineEnd c = false := fun c hc => hl c (by rw [he]; simp [hc])
          obtain ⟨hr, ha⟩ := read_comment htail
          have hd : '-' :: '-' :: tail ++ ['\n'] = ['-', '-'] ++ (tail ++ ['\n']) := rfl
          rw [hd, literalsFrom_append, Place.after_append, Place.after_dashes, hr, ha,
            literalsFrom_of_noQuote (by simp [Quote.ofChar?])]
          exact ⟨rfl, Place.start_startsLine⟩
  have hline : line ++ ['\n'] = (beforeComment quote line).1 ++ (comment ++ ['\n']) := by
    rw [← List.append_assoc, ← he]
  refine ⟨?_, ?_⟩
  · rw [hline, literalsFrom_append, hp, hread.1, List.append_nil]
  · rw [hline, Place.after_append, hp]
    exact hread.2

end SqlShell.Statement
