import SqlShell.Proofs.Statement.CodePreservation
import SqlShell.Proofs.Statement.CommandWords

/-! When a statement is a single one, with no terminator in its code that other code follows. Only
a line can put two statements into one, as a statement ends on the first line whose code ends with
the terminator.
-/

namespace SqlShell.Statement

open SqlShell.Text

/-- The terminator outside literals. -/
def terminator : CodeChar :=
  ⟨';', false⟩

/-- Only terminators follow a terminator of the code. -/
def IsSingle (code : List CodeChar) : Prop :=
  code.Pairwise fun c later => c = terminator → later.char = ';'

instance (code : List CodeChar) : Decidable (IsSingle code) :=
  inferInstanceAs (Decidable (code.Pairwise _))

/-- Each of the lines is single, given the literal that is open at the start of the first one. -/
def LinesSingle : Option Quote → List (List Char) → Prop
  | _, [] => True
  | quote, line :: lines =>
      IsSingle (codeOfLine quote line) ∧ LinesSingle (scan quote line).2 lines

/-- Code that is single has no terminator. So it stays single if single code follows. -/
def IsOpen (code : List CodeChar) : Prop :=
  IsSingle code → terminator ∉ code

-----------------------------------------------------------------------------------------
-- Code that follows other code
-----------------------------------------------------------------------------------------

/-- After code without terminators, or single code that is open, other code is single on its own. -/
theorem IsOpen.isSingle_append {code : List CodeChar} (h : IsOpen code) (more : List CodeChar)
    : IsSingle (code ++ more) ↔ IsSingle code ∧ IsSingle more := by
  rw [IsSingle, List.pairwise_append]
  constructor
  · rintro ⟨hcode, hmore, -⟩
    exact ⟨hcode, hmore⟩
  · rintro ⟨hcode, hmore⟩
    refine ⟨hcode, hmore, fun c hc later _ ht => ?_⟩
    exact absurd (ht ▸ hc) (h hcode)

/-- Open code is still open after open code. -/
theorem IsOpen.append {code more : List CodeChar} (h : IsOpen code) (hm : IsOpen more)
    : IsOpen (code ++ more) := by
  intro hs
  obtain ⟨hcode, hmore⟩ := (h.isSingle_append more).mp hs
  simp [h hcode, hm hmore]

/-- Terminators at the end leave code single. -/
theorem isSingle_append_of_terminators {code tail : List CodeChar}
    (h : ∀ c ∈ tail, c.char = ';')
    : IsSingle (code ++ tail) ↔ IsSingle code := by
  rw [IsSingle, List.pairwise_append]
  constructor
  · exact fun hs => hs.1
  · intro hs
    refine ⟨hs, ?_, fun _ _ later hl _ => h later hl⟩
    exact List.pairwise_of_forall_mem_list fun _ _ later hl _ => h later hl

-----------------------------------------------------------------------------------------
-- Lines that end no statement
-----------------------------------------------------------------------------------------

/-- The literal that the scan finds open at the end of a line is the one in which the part before
the comment ends, by induction on the scan.
-/
theorem beforeComment_snd (quote : Option Quote) (line : List Char)
    : (beforeComment quote line).2 = (beforeComment quote line).1.foldl nextQuote quote := by
  fun_induction beforeComment quote line with
  | case1 quote => rfl
  | case2 tail => rfl
  | case3 quote c rest hn kept after he ih =>
      rw [he] at ih
      exact ih

theorem codeChars_concat (quote : Option Quote) (text : List Char) (c : Char)
    : codeChars quote (text ++ [c]) =
        codeChars quote text
        ++ (CodeChar.ofChar? (text.foldl nextQuote quote).isSome c).toList := by
  induction text generalizing quote with
  | nil => exact List.append_nil _
  | cons d rest ih =>
      rw [List.cons_append, codeChars, ih, codeChars, List.append_assoc]
      rfl

/-- A text that is single though its code has a terminator ends with one, outside literals. By
induction on the text from its end: the last character that is not blank follows the terminator or
is the terminator.
-/
theorem endsWithTerminator_of_isSingle {quote : Option Quote} {text : List Char}
    (hs : IsSingle (codeChars quote text)) (ht : terminator ∈ codeChars quote text)
    : text.foldl nextQuote quote = none ∧ endsWithTerminator (trimEnd text) = true := by
  induction text using List.reverseRecOn with
  | nil => exact absurd ht List.not_mem_nil
  | append_singleton text c ih =>
      rw [codeChars_concat] at hs ht
      rw [List.foldl_concat]
      have htext : IsSingle (codeChars quote text) := (List.pairwise_append.mp hs).1
      by_cases hb : isBlank c = true
      · have hblank : ∀ d ∈ [c], isBlank d = true := by simpa using hb
        rw [CodeChar.ofChar?_of_blank hb, Option.toList_none, List.append_nil] at ht
        obtain ⟨hquote, hends⟩ := ih htext ht
        rw [hquote, trimEnd_append_of_blank text hblank]
        exact ⟨(code_of_blank hb).1, hends⟩
      · rw [CodeChar.ofChar?_of_not_blank (eq_false_of_ne_true hb)] at hs ht
        -- The terminator stands before the last character, which then is one too, or is it.
        have hlast : c = ';' ∧ text.foldl nextQuote quote = none := by
          rcases List.mem_append.mp ht with ht | ht
          · have hc := (List.pairwise_append.mp hs).2.2 terminator ht _ List.mem_cons_self rfl
            exact ⟨hc, (ih htext ht).1⟩
          · have he := List.mem_singleton.mp ht
            have hout : (text.foldl nextQuote quote).isSome = false :=
              (congrArg CodeChar.inLiteral he).symm
            exact ⟨(congrArg CodeChar.char he).symm,
              Option.isNone_iff_eq_none.mp (by simpa using hout)⟩
        obtain ⟨rfl, hquote⟩ := hlast
        have hkept : trimEnd (text ++ [';']) = text ++ [';'] :=
          dropEndWhile_append_word (by simp [isBlank]) (List.cons_ne_nil _ _) text
        rw [hquote, hkept, endsWithTerminator, List.getLast?_concat]
        exact ⟨rfl, rfl⟩

/-- The code of a line that ends no statement is open. -/
theorem isOpen_of_not_endsStatement {quote : Option Quote} {line : List Char}
    (h : endsStatement quote line = false)
    : IsOpen (codeOfLine quote line) := by
  intro hs ht
  rw [codeOfLine_eq] at hs ht
  obtain ⟨hquote, hends⟩ := endsWithTerminator_of_isSingle hs ht
  have hline : endsStatement quote line = true :=
    endsStatement_iff.mpr ⟨(beforeComment_snd quote line).trans hquote, hends⟩
  exact absurd (hline.symm.trans h) (by decide)

-----------------------------------------------------------------------------------------
-- The statements of a text
-----------------------------------------------------------------------------------------

/-- The statement of the collected lines is single exactly if these lines together are. -/
theorem isSingle_ofLines? {lines : List (List Char)}
    (hl : ∀ line ∈ lines, ∀ c ∈ line, isLineEnd c = false)
    : (∀ statement ∈ (ofLines? lines).toList, IsSingle (codeOf statement))
      ↔ IsSingle (codeOfLines none lines) := by
  obtain ⟨tail, ht, he⟩ := codeOf_ofLines? hl
  rw [he, isSingle_append_of_terminators ht]
  cases ofLines? lines with
  | none => simp [IsSingle]
  | some statement => simp

/-- The statements of the remaining lines are single exactly if the collected lines together are and
each of the remaining lines is. By induction on the latter: lines that end no statement are open, so
code that follows them is single on its own.
-/
theorem isSingle_splitRest {collected lines : List (List Char)}
    (hc : ∀ line ∈ collected, ∀ c ∈ line, isLineEnd c = false)
    (hl : ∀ line ∈ lines, ∀ c ∈ line, isLineEnd c = false)
    (ho : IsOpen (codeOfLines none collected))
    : (∀ statement ∈ splitRest (openAfter none collected) collected lines,
        IsSingle (codeOf statement))
      ↔ IsSingle (codeOfLines none collected)
        ∧ LinesSingle (openAfter none collected) lines := by
  induction lines generalizing collected with
  | nil => simpa [splitRest, LinesSingle] using isSingle_ofLines? hc
  | cons line rest ih =>
      obtain ⟨hline, hrest⟩ := List.forall_mem_cons.mp hl
      rw [splitRest_cons, LinesSingle]
      split
      · next hpassed =>
          obtain ⟨hquote, hs⟩ := scan_of_passed hpassed
          have hcode : codeOfLine none line = [] := by
            rw [codeOfLine, hs]
            rfl
          have hempty : IsSingle [] := List.Pairwise.nil
          have hsplit := ih hc hrest ho
          rw [hquote] at hsplit ⊢
          rw [hsplit, hcode, hs]
          simp [hempty]
      · split
        · next hends =>
            -- The collected lines are open, so the line is single on its own in their statement.
            have hstart : (∀ statement ∈ splitRest none [] rest, IsSingle (codeOf statement))
                ↔ IsSingle [] ∧ LinesSingle none rest :=
              ih (List.forall_mem_nil _) hrest fun _ => List.not_mem_nil
            have hempty : IsSingle [] := List.Pairwise.nil
            have hcode := isSingle_ofLines? (forall_mem_concat hc
              (not_isLineEnd_of_mem_scan hline (openAfter none collected)))
            rw [codeOfLines_concat, codeOfLine_scan, ho.isSingle_append] at hcode
            rw [List.forall_mem_append, hcode, hstart, (endsStatement_iff.mp hends).1, and_assoc]
            simp only [hempty, true_and]
        · next hends =>
            have hopen := isOpen_of_not_endsStatement (eq_false_of_ne_true hends)
            have hsplit := ih (forall_mem_concat hc hline) hrest
              (codeOfLines_concat none collected line ▸ ho.append hopen)
            rw [openAfter_concat, codeOfLines_concat, ho.isSingle_append] at hsplit
            rw [hsplit, and_assoc]

/-- The statements of a text are single exactly if each line of the text is. -/
theorem isSingle_split (text : List Char)
    : (∀ statement ∈ split text, IsSingle (codeOf statement))
      ↔ LinesSingle none (splitLines text) := by
  have hlines : ∀ line ∈ splitLines text, ∀ c ∈ line, isLineEnd c = false :=
    fun _ hl _ hc => isLineEnd_eq_false_of_mem_splitLines hl hc
  have hsplit := isSingle_splitRest (List.forall_mem_nil _) hlines fun _ => List.not_mem_nil
  have hempty : IsSingle [] := List.Pairwise.nil
  simpa [split, codeOfLines, openAfter, hempty] using hsplit

end SqlShell.Statement
