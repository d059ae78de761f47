import SqlShell.Proofs.Statement.LineScanning
import SqlShell.Proofs.Text.LineSeams
import SqlShell.Statement.Keyword

/-! The commands of the shell are told by their whole text: a statement is a command exactly if it
is the name of the command, up to outer blanks and letter case. Reading its first word adds
nothing.
-/

namespace SqlShell.Statement

open SqlShell.Text

/-- The character ends a word or means something in the code of a line. -/
def separates (c : Char) : Bool :=
  isBlank c || (Quote.ofChar? c).isSome || c == '-' || c == ';'

/-- The code points of the characters that separate. -/
def separatingCodes : List Nat :=
  [0x09, 0x0A, 0x0B, 0x0C, 0x0D, 0x1C, 0x1D, 0x1E, 0x1F, 0x20, 0x22, 0x27, 0x2D, 0x3B, 0x85, 0xA0,
    0x1680, 0x2000, 0x2001, 0x2002, 0x2003, 0x2004, 0x2005, 0x2006, 0x2007, 0x2008, 0x2009, 0x200A,
    0x2028, 0x2029, 0x202F, 0x205F, 0x3000]

/-- The characters that separate are those with these code points, by the ranges of blanks. -/
theorem mem_separatingCodes {c : Char} (h : separates c = true) : c.toNat ∈ separatingCodes := by
  simp only [separates, Bool.or_eq_true, beq_iff_eq] at h
  rcases h with ((hb | hq) | rfl) | rfl
  · simp only [isBlank, Bool.or_eq_true, Bool.and_eq_true, decide_eq_true_eq, beq_iff_eq] at hb
    simp only [separatingCodes, List.mem_cons, List.not_mem_nil]
    omega
  · rw [Quote.ofChar?] at hq
    split at hq
    · next hs =>
        subst hs
        decide
    · split at hq
      · next hd =>
          subst hd
          decide
      · exact absurd hq (by decide)
  · decide
  · decide

/-- A character that separates is its own upper case. -/
theorem upperOf_of_separates {c : Char} (h : separates c = true) : upperOf c = [c] := by
  have hall : ∀ n ∈ separatingCodes, upperOf (Char.ofNat n) = [Char.ofNat n] := by decide +kernel
  have hc := hall c.toNat (mem_separatingCodes h)
  rwa [Char.ofNat_toNat] at hc

/-- A text whose upper case has no separating character has none itself. -/
theorem not_separates_of_toUpper {text : List Char}
    (h : ∀ c ∈ toUpper text, separates c = false)
    : ∀ c ∈ text, separates c = false := by
  intro c hc
  by_contra hs
  have hs : separates c = true := eq_true_of_ne_false hs
  have hmem : c ∈ toUpper text :=
    List.mem_flatMap.mpr ⟨c, hc, by simp [upperOf_of_separates hs]⟩
  exact absurd (hs.symm.trans (h c hmem)) (by decide)

/-- A character that does not separate is neither blank nor part of the syntax of lines. -/
theorem separates_eq_false_iff {c : Char}
    : separates c = false
      ↔ isBlank c = false ∧ Quote.ofChar? c = none ∧ c ≠ '-' ∧ c ≠ ';' := by
  simp [separates, and_assoc]

/-- A word without separating characters has no blanks. -/
theorem not_blank_of_word {word : List Char} (h : ∀ c ∈ word, separates c = false)
    : ∀ c ∈ word, isBlank c = false :=
  fun c hc => (separates_eq_false_iff.mp (h c hc)).1

-----------------------------------------------------------------------------------------
-- A word between blanks
-----------------------------------------------------------------------------------------

/-- A word at the end of a text is not trimmed. -/
theorem dropEndWhile_append_word {p : Char → Bool} {word : List Char}
    (h : ∀ c ∈ word, p c = false) (hne : word ≠ []) (text : List Char)
    : dropEndWhile p (text ++ word) = text ++ word := by
  rw [dropEndWhile_eq_rdropWhile, List.rdropWhile_eq_self_iff]
  intro hl
  rw [List.getLast_append_of_ne_nil hl hne, h _ (List.getLast_mem hne)]
  exact Bool.false_ne_true

/-- Trimming a word between blanks leaves the word. -/
theorem trim_word {front word back : List Char} (hf : ∀ c ∈ front, isBlank c = true)
    (hw : ∀ c ∈ word, isBlank c = false) (hne : word ≠ []) (hb : ∀ c ∈ back, isBlank c = true)
    : trim (front ++ (word ++ back)) = word := by
  have hs : trimStart (word ++ back) = word ++ back := by
    obtain ⟨c, rest, rfl⟩ := List.exists_cons_of_ne_nil hne
    rw [trimStart, List.cons_append, List.dropWhile_cons_of_neg]
    rw [hw c List.mem_cons_self]
    exact Bool.false_ne_true
  rw [trim_append_of_blank hf, trim, hs, trimEnd_append_of_blank word hb, trimEnd]
  exact dropEndWhile_append_word hw hne []

/-- A line without quotes and dashes is all code, by induction. -/
theorem beforeComment_of_plain {line : List Char}
    (h : ∀ c ∈ line, Quote.ofChar? c = none ∧ c ≠ '-')
    : beforeComment none line = (line, none) := by
  induction line with
  | nil => rfl
  | cons c rest ih =>
      obtain ⟨hq, hd⟩ := h c List.mem_cons_self
      rw [beforeComment.eq_3 _ _ _ (fun _ _ hc _ => hd hc), nextQuote, hq,
        ih fun d hm => h d (List.mem_cons_of_mem c hm)]

/-- Blanks before a text that starts with no line feed are blank lines and blanks at the start of
its first line, by induction on the blanks.
-/
theorem splitLines_blank_append {front more line : List Char} {lines : List (List Char)}
    (hf : ∀ c ∈ front, isBlank c = true) (hm : more.head? ≠ some '\n')
    (he : splitLines more = line :: lines)
    : ∃ before blanks, splitLines (front ++ more) = before ++ (blanks ++ line) :: lines
        ∧ (∀ other ∈ before, ∀ c ∈ other, isBlank c = true)
        ∧ ∀ c ∈ blanks, isBlank c = true := by
  fun_induction splitLines front with
  | case1 => exact ⟨[], [], he, by simp, by simp⟩
  | case2 rest ih =>
      obtain ⟨before, blanks, hs, hb, hl⟩ := ih fun c hc => hf c (by simp [hc])
      refine ⟨[] :: before, blanks, ?_, by simpa using hb, hl⟩
      rw [List.cons_append, List.cons_append, splitLines.eq_2, hs, List.cons_append]
  | case3 c rest hn hc ih =>
      obtain ⟨before, blanks, hs, hb, hl⟩ := ih fun d hd => hf d (List.mem_cons_of_mem c hd)
      refine ⟨[] :: before, blanks, ?_, by simpa using hb, hl⟩
      rw [List.cons_append, splitLines.eq_3 _ _ (return_alone_append hn fun _ _ => hm), if_pos hc,
        hs, List.cons_append]
  | case4 c rest hn hc hrest _ =>
      obtain rfl : rest = [] := by
        by_contra hne
        exact splitLines_ne_nil hne hrest
      refine ⟨[], [c], ?_, by simp, hf⟩
      rw [List.singleton_append, splitLines_cons (eq_false_of_ne_true hc), he]
      rfl
  | case5 c rest hn hc _ _ _ ih =>
      obtain ⟨before, blanks, hs, hb, hl⟩ := ih fun d hd => hf d (List.mem_cons_of_mem c hd)
      rw [List.cons_append, splitLines_cons (eq_false_of_ne_true hc), hs]
      -- The character joins the blanks before the first line, or the first of the blank lines.
      cases before with
      | nil =>
          exact ⟨[], c :: blanks, rfl, by simp,
            List.forall_mem_cons.mpr ⟨hf c List.mem_cons_self, hl⟩⟩
      | cons first others =>
          obtain ⟨hfirst, hothers⟩ := List.forall_mem_cons.mp hb
          refine ⟨(c :: first) :: others, blanks, rfl, ?_, hl⟩
          exact List.forall_mem_cons.mpr
            ⟨List.forall_mem_cons.mpr ⟨hf c List.mem_cons_self, hfirst⟩, hothers⟩

/-- Blank lines have no keyword, by induction. -/
theorem keywordOfLines_blank_append {blanks : List (List Char)}
    (h : ∀ line ∈ blanks, ∀ c ∈ line, isBlank c = true) (lines : List (List Char))
    : keywordOfLines (blanks ++ lines) = keywordOfLines lines := by
  induction blanks with
  | nil => rfl
  | cons line rest ih =>
      rw [List.cons_append, keywordOfLines, scan_of_blank (h line List.mem_cons_self)]
      exact ih fun other ho => h other (List.mem_cons_of_mem line ho)

/-- The code of a line that is one word between blanks is the word. -/
theorem trim_scan_word {front word back : List Char} (hf : ∀ c ∈ front, isBlank c = true)
    (hw : ∀ c ∈ word, separates c = false) (hne : word ≠ []) (hb : ∀ c ∈ back, isBlank c = true)
    : trim (scan none (front ++ (word ++ back))).1 = word := by
  have hplain : ∀ c ∈ front ++ (word ++ back), Quote.ofChar? c = none ∧ c ≠ '-' := by
    intro c hc
    simp only [List.mem_append] at hc
    rcases hc with hc | hc | hc
    · exact code_of_blank (hf c hc)
    · obtain ⟨_, hq, hd, _⟩ := separates_eq_false_iff.mp (hw c hc)
      exact ⟨hq, hd⟩
    · exact code_of_blank (hb c hc)
  have hend : trimEnd (front ++ (word ++ back)) = front ++ (word ++ []) := by
    rw [← List.append_assoc, trimEnd_append_of_blank _ hb, trimEnd,
      dropEndWhile_append_word (not_blank_of_word hw) hne, List.append_nil]
  have hscan : (scan none (front ++ (word ++ back))).1 = trimEnd (front ++ (word ++ back)) := by
    rw [scan, beforeComment_of_plain hplain]
  rw [hscan, hend]
  exact trim_word hf (not_blank_of_word hw) hne (by simp)

/-- A line that is one word between blanks has the keyword that the word is. -/
theorem keywordOfLines_word {front word back : List Char} (hf : ∀ c ∈ front, isBlank c = true)
    (hw : ∀ c ∈ word, separates c = false) (hne : word ≠ []) (hb : ∀ c ∈ back, isBlank c = true)
    (lines : List (List Char))
    : keywordOfLines ((front ++ (word ++ back)) :: lines) = toUpper word := by
  have hfirst : firstWord word = word :=
    List.takeWhile_eq_self_iff.mpr fun c hc => by simp [not_blank_of_word hw c hc]
  have hterm : dropEndWhile (· == ';') word = word := by
    refine dropEndWhile_append_word (fun c hc => ?_) hne []
    simpa using (separates_eq_false_iff.mp (hw c hc)).2.2.2
  rw [keywordOfLines, trim_scan_word hf hw hne hb]
  obtain ⟨c, rest, rfl⟩ := List.exists_cons_of_ne_nil hne
  simp only
  rw [hfirst, hterm]

/-- The keyword of a word between blanks is the word in upper case. -/
theorem keyword_word {front word back : List Char} (hf : ∀ c ∈ front, isBlank c = true)
    (hw : ∀ c ∈ word, separates c = false) (hne : word ≠ []) (hb : ∀ c ∈ back, isBlank c = true)
    : keyword (front ++ (word ++ back)) = toUpper word := by
  have hend : ∀ c ∈ word, isLineEnd c = false := by
    intro c hc
    by_contra he
    have hcb := isBlank_of_isLineEnd (eq_true_of_ne_false he)
    exact absurd (hcb.symm.trans (not_blank_of_word hw c hc)) (by decide)
  have htail : ∀ c ∈ (splitLines back).headD [], isBlank c = true := by
    intro c hc
    cases hl : splitLines back with
    | nil => simp [hl] at hc
    | cons line lines =>
        rw [hl] at hc
        exact hb c (mem_of_mem_splitLines (by rw [hl]; exact List.mem_cons_self) hc)
  have hhead : (word ++ back).head? ≠ some '\n' := by
    obtain ⟨c, rest, rfl⟩ := List.exists_cons_of_ne_nil hne
    rintro he
    obtain rfl : c = '\n' := Option.some.inj he
    exact absurd (hend '\n' List.mem_cons_self) (by decide)
  obtain ⟨before, blanks, hs, hbefore, hblanks⟩ :=
    splitLines_blank_append hf hhead (splitLines_append hend hne back)
  rw [keyword, hs, keywordOfLines_blank_append hbefore,
    keywordOfLines_word hblanks hw hne htail]

/-- A statement is the command with a name exactly if the name is what trimming the statement and
putting it in upper case yields. The name has no separating characters.
-/
theorem isCommand_iff {name : String} (hn : ∀ c ∈ name.toList, separates c = false)
    (hne : name.toList ≠ []) (statement : List Char)
    : isCommand name statement = true ↔ toUpper (trim statement) = name.toList := by
  constructor
  · intro h
    obtain ⟨hk, ht⟩ := (Bool.and_eq_true _ _).mp h
    rw [eq_of_beq ht, ← eq_of_beq hk, String.toList_ofList]
  · intro h
    have hw : ∀ c ∈ trim statement, separates c = false :=
      not_separates_of_toUpper fun c hc => hn c (h ▸ hc)
    have hword : trim statement ≠ [] := by
      intro ht
      rw [ht] at h
      exact hne h.symm
    obtain ⟨front, hf, he⟩ := exists_trimStart statement
    obtain ⟨back, hb, hs⟩ := exists_trimEnd (trimStart statement)
    have hk : keyword statement = toUpper (trim statement) := by
      conv => lhs; rw [he, hs]
      exact keyword_word hf hw hword hb
    rw [isCommand, hk, h, String.ofList_toList]
    simp

end SqlShell.Statement
