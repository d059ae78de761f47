import Mathlib.Data.List.Basic
import SqlShell.Display.Markup

/-! Text that is escaped and then read as markup comes out as text: no part of it becomes a tag, and
the parts in which it is read make up the text again.
-/

namespace SqlShell

/-- A text whose first characters with a property are followed by another one is cut there. -/
theorem Text.eq_takeWhile_append {p : Char → Bool} {text : List Char} {c : Char}
    (h : (text.drop (text.takeWhile p).length).head? = some c)
    : ∃ rest, text = text.takeWhile p ++ c :: rest := by
  obtain ⟨rest, hr⟩ := List.head?_eq_some_iff.mp h
  have htake : text.takeWhile p = text.take (text.takeWhile p).length :=
    List.prefix_iff_eq_take.mp (List.takeWhile_prefix p)
  refine ⟨rest, ?_⟩
  conv_lhs => rw [← List.take_append_drop (text.takeWhile p).length text, hr, ← htake]

/-- The first characters of a text that have a property are those up to one that has it not. -/
theorem Text.takeWhile_append_cons {p : Char → Bool} {before : List Char} {c : Char}
    (hb : before.all p = true) (hc : p c = false) (rest : List Char)
    : (before ++ c :: rest).takeWhile p = before := by
  rw [List.takeWhile_append_of_pos (List.all_eq_true.mp hb), List.takeWhile_cons_of_neg (by simp [hc]),
    List.append_nil]

namespace Markup

-----------------------------------------------------------------------------------------
-- Tags
-----------------------------------------------------------------------------------------

/-- The character may stand in a tag. -/
def isInner (c : Char) : Bool :=
  c != ']' && c != '['

theorem isInner_of_startsTag {c : Char} (h : startsTag c = true) : isInner c = true := by
  rw [isInner, Bool.and_eq_true, bne_iff_ne, bne_iff_ne]
  constructor
  · rintro rfl
    exact absurd h (by decide)
  · rintro rfl
    exact absurd h (by decide)

theorem not_mem_of_all_isInner {text : List Char} (h : text.all isInner = true) : '[' ∉ text :=
  fun hm => absurd (List.all_eq_true.mp h _ hm) (by decide)

/-- A tag at the start of a text is its content in brackets, which starts as tags do and holds no
other bracket.
-/
theorem tag?_eq_some_iff {text content : List Char}
    : tag? text = some content ↔
        ∃ c inner rest, content = c :: inner ∧ startsTag c = true ∧ inner.all isInner = true
          ∧ text = '[' :: (content ++ ']' :: rest) := by
  constructor
  · intro h
    unfold tag? at h
    split at h
    · next c rest =>
        dsimp only at h
        split at h
        · next hc =>
            rw [Bool.and_eq_true, beq_iff_eq] at hc
            obtain ⟨more, hmore⟩ := Text.eq_takeWhile_append hc.2
            obtain rfl := Option.some.inj h
            refine ⟨c, _, more, rfl, hc.1, List.all_takeWhile, ?_⟩
            rw [List.cons_append, ← hmore]
        · exact nomatch h
    · exact nomatch h
  · rintro ⟨c, inner, rest, rfl, hc, hi, rfl⟩
    have htake : (inner ++ ']' :: rest).takeWhile (fun d => d != ']' && d != '[') = inner :=
      Text.takeWhile_append_cons hi (by decide) rest
    show (if startsTag c && ((inner ++ ']' :: rest).drop
      ((inner ++ ']' :: rest).takeWhile fun d => d != ']' && d != '[').length).head? == some ']' then
        some (c :: (inner ++ ']' :: rest).takeWhile fun d => d != ']' && d != '[') else none) = _
    rw [htake, hc, List.drop_left]
    rfl

/-- A content may stand in a tag as a whole, and the bracket that closes it follows. -/
theorem exists_of_tag? {c : Char} {rest content : List Char} (h : tag? (c :: rest) = some content)
    : c = '[' ∧ content.all isInner = true ∧ ∃ more, rest = content ++ ']' :: more := by
  obtain ⟨d, inner, more, rfl, hd, hi, he⟩ := tag?_eq_some_iff.mp h
  obtain ⟨rfl, ht⟩ := List.cons.inj he
  refine ⟨rfl, ?_, more, ht⟩
  rw [List.all_cons, isInner_of_startsTag hd, hi]
  rfl

/-- A text that starts with anything but a bracket starts with no tag. -/
theorem tag?_of_ne {c : Char} (h : c ≠ '[') (rest : List Char) : tag? (c :: rest) = none := by
  unfold tag?
  split
  · next heq => exact absurd (List.cons.inj heq).1 h
  · rfl

-----------------------------------------------------------------------------------------
-- Escaping
-----------------------------------------------------------------------------------------

/-- A character that is no backslash and starts no tag is escaped as it is. -/
theorem escapeTags_cons {c : Char} {rest : List Char} (hc : c ≠ '\\')
    (ht : tag? (c :: rest) = none) (slashes : Nat)
    : escapeTags slashes (c :: rest) =
        List.replicate slashes '\\' ++ c :: escapeTags 0 rest := by
  rw [escapeTags, if_neg hc, ht]
  rfl

/-- A tag is escaped by one more backslash than twice those before it. -/
theorem escapeTags_of_tag {content rest : List Char} (h : tag? ('[' :: rest) = some content)
    (slashes : Nat)
    : escapeTags slashes ('[' :: rest) =
        List.replicate (2 * slashes + 1) '\\' ++ '[' :: escapeTags 0 rest := by
  rw [escapeTags, if_neg (by decide), h]
  rfl

/-- Text without opening brackets up to a character that is no backslash is escaped as it is, by
induction on that text.
-/
theorem escapeTags_append {text : List Char} (h : '[' ∉ text) {c : Char} (hc : c ≠ '\\')
    (hb : c ≠ '[') (slashes : Nat) (rest : List Char)
    : escapeTags slashes (text ++ c :: rest) =
        List.replicate slashes '\\' ++ text ++ c :: escapeTags 0 rest := by
  induction text generalizing slashes with
  | nil => rw [List.nil_append, escapeTags_cons hc (tag?_of_ne hb rest), List.append_nil]
  | cons d text ih =>
      rw [List.mem_cons, not_or] at h
      by_cases hd : d = '\\'
      · subst hd
        rw [List.cons_append, escapeTags, if_pos rfl, ih h.2, List.replicate_succ']
        simp
      · rw [List.cons_append, escapeTags_cons hd (tag?_of_ne (Ne.symm h.1) _), ih h.2]
        simp

/-- A text of backslashes and a character that is cut at a closing bracket is cut there or later. -/
theorem cut_of_replicate {slashes : Nat} {c : Char} {text before after : List Char}
    (h : List.replicate slashes '\\' ++ c :: text = before ++ ']' :: after)
    : c = ']' ∧ before = List.replicate slashes '\\'
      ∨ ∃ inner, before = List.replicate slashes '\\' ++ c :: inner
        ∧ text = inner ++ ']' :: after := by
  rcases List.append_eq_append_iff.mp h with ⟨inner, rfl, hi⟩ | ⟨more, hm, hi⟩
  · cases inner with
    | nil => exact Or.inl ⟨(List.cons.inj hi).1, List.append_nil _⟩
    | cons d inner =>
        obtain ⟨rfl, ht⟩ := List.cons.inj hi
        exact Or.inr ⟨inner, rfl, ht⟩
  · cases more with
    | nil => exact Or.inl ⟨(List.cons.inj hi).1.symm, by rw [hm, List.append_nil]⟩
    | cons d more =>
        have hmem : d ∈ List.replicate slashes '\\' := by simp [hm]
        have hd := List.eq_of_mem_replicate hmem
        exact absurd ((List.cons.inj hi).1.trans hd) (by decide)

/-- A closing bracket that stands before all opening ones in an escaped text stands there in the
text as well, by induction on the text.
-/
theorem exists_of_escapeTags {before after : List Char} (h : before.all isInner = true)
    {slashes : Nat} {text : List Char} (he : escapeTags slashes text = before ++ ']' :: after)
    : ∃ rest, List.replicate slashes '\\' ++ text = before ++ ']' :: rest := by
  induction text generalizing slashes before with
  | nil =>
      have hmem : ']' ∈ List.replicate slashes '\\' := by
        rw [escapeTags] at he
        simp [he]
      exact absurd (List.eq_of_mem_replicate hmem) (by decide)
  | cons c text ih =>
      by_cases hc : c = '\\'
      · subst hc
        rw [escapeTags, if_pos rfl] at he
        obtain ⟨rest, hr⟩ := ih h he
        refine ⟨rest, ?_⟩
        rw [← hr, List.replicate_succ', List.append_assoc]
        rfl
      · cases ht : tag? (c :: text) with
        | none =>
            rw [escapeTags_cons hc ht] at he
            rcases cut_of_replicate he with ⟨rfl, rfl⟩ | ⟨inner, rfl, hi⟩
            · exact ⟨text, rfl⟩
            · rw [List.all_append, Bool.and_eq_true, List.all_cons, Bool.and_eq_true] at h
              obtain ⟨rest, hr⟩ := ih h.2.2 hi
              rw [List.replicate_zero, List.nil_append] at hr
              exact ⟨rest, by rw [hr, List.append_assoc]; rfl⟩
        | some content =>
            obtain ⟨rfl, -⟩ := exists_of_tag? ht
            rw [escapeTags_of_tag ht] at he
            rcases cut_of_replicate he with ⟨hb, -⟩ | ⟨inner, rfl, -⟩
            · exact absurd hb (by decide)
            · rw [List.all_append, Bool.and_eq_true, List.all_cons] at h
              exact nomatch h.2

/-- A content and the bracket that closes it are escaped as they are. -/
theorem escapeTags_content {content : List Char} (h : content.all isInner = true)
    (rest : List Char)
    : escapeTags 0 (content ++ ']' :: rest) = content ++ ']' :: escapeTags 0 rest :=
  escapeTags_append (not_mem_of_all_isInner h) (by decide) (by decide) 0 rest

/-- Escaping what stands after an opening bracket makes no tag of it, and unmakes none. -/
theorem tag?_escapeTags (c : Char) (rest : List Char)
    : tag? (c :: escapeTags 0 rest) = tag? (c :: rest) := by
  have hall : ∀ {d : Char} {inner : List Char}, startsTag d = true → inner.all isInner = true →
      (d :: inner).all isInner = true :=
    fun hd hi => by rw [List.all_cons, isInner_of_startsTag hd, hi]; rfl
  refine Option.ext fun content => ?_
  rw [tag?_eq_some_iff, tag?_eq_some_iff]
  constructor
  · rintro ⟨d, inner, more, rfl, hd, hi, he⟩
    obtain ⟨rfl, ht⟩ := List.cons.inj he
    obtain ⟨after, hr⟩ := exists_of_escapeTags (hall hd hi) ht
    rw [List.replicate_zero, List.nil_append] at hr
    exact ⟨d, inner, after, rfl, hd, hi, congrArg ('[' :: ·) hr⟩
  · rintro ⟨d, inner, more, rfl, hd, hi, he⟩
    obtain ⟨rfl, rfl⟩ := List.cons.inj he
    exact ⟨d, inner, _, rfl, hd, hi, congrArg ('[' :: ·) (escapeTags_content (hall hd hi) more)⟩

-----------------------------------------------------------------------------------------
-- Pieces of escaped text
-----------------------------------------------------------------------------------------

/-- No tag starts at one of the first places of the text. -/
def StartsNoTag (text : List Char) (places : Nat) : Prop :=
  ∀ place < places, tag? (text.drop place) = none

/-- A text in parts, which is cut around its tags: what stands before a tag, the backslashes right
before it, and the tag.
-/
inductive CutAtTags : List Char → List (List Char) → Prop where
  | last {text : List Char} (h : ∀ place, tag? (text.drop place) = none) : CutAtTags text [text]
  | tag {text before content rest : List Char} {slashes : Nat} {parts : List (List Char)}
      (ht : text = before ++ List.replicate slashes '\\' ++ ('[' :: content ++ [']']) ++ rest)
      (hb : before.getLast? ≠ some '\\')
      (hn : StartsNoTag text (before.length + slashes))
      (hc : tag? (text.drop (before.length + slashes)) = some content)
      (hr : CutAtTags rest parts) :
      CutAtTags text
        (before :: List.replicate slashes '\\' :: ('[' :: content ++ [']']) :: parts)

/-- The parts make up the text. -/
theorem CutAtTags.flatten {text : List Char} {parts : List (List Char)} (h : CutAtTags text parts)
    : parts.flatten = text := by
  induction h with
  | last h => exact List.append_nil _
  | tag ht hb hn hc hr ih => simp [ht, ih]

/-- Backslashes are counted. -/
theorem piecesFrom_replicate (plain : List Char) (position slashes count : Nat) (rest : List Char)
    : piecesFrom plain position slashes 0 (List.replicate count '\\' ++ rest) =
        piecesFrom plain (position + count) (slashes + count) 0 rest := by
  induction count generalizing position slashes with
  | zero => rfl
  | succ count ih =>
      rw [List.replicate_succ, List.cons_append, piecesFrom, if_neg (Nat.lt_irrefl 0), if_pos rfl,
        ih]
      congr 1 <;> omega

/-- What is to be passed over is passed over. -/
theorem piecesFrom_skipped (position : Nat) {passed : List Char} (hp : passed ≠ [])
    (plain : List Char) (slashes : Nat) (rest : List Char)
    : piecesFrom plain position slashes passed.length (passed ++ rest) =
        piecesFrom [] (position + passed.length) 0 0 rest := by
  induction passed generalizing plain position slashes with
  | nil => exact absurd rfl hp
  | cons c passed ih =>
      rw [List.cons_append, piecesFrom, if_pos (by simp), List.length_cons, Nat.add_sub_cancel]
      cases passed with
      | nil => rfl
      | cons d passed =>
          rw [ih _ (List.cons_ne_nil _ _)]
          congr 1
          simp only [List.length_cons]
          omega

/-- One more character may be passed if no tag starts there. -/
theorem StartsNoTag.succ {passed rest : List Char} {places : Nat} (hl : passed.length = places)
    (h : StartsNoTag (passed ++ rest) places) (ht : tag? rest = none)
    : StartsNoTag (passed ++ rest) (places + 1) := by
  intro place hp
  rcases Nat.lt_succ_iff_lt_or_eq.mp hp with hp | rfl
  · exact h place hp
  · rw [List.drop_left' hl]
    exact ht

theorem length_passed (plain : List Char) (slashes : Nat)
    : (plain.reverse ++ List.replicate slashes '\\').length = plain.length + slashes := by
  simp

/-- A tag that is escaped is read as text, after what stands before it and half of its backslashes.
-/
theorem piecesFrom_escapedTag (plain : List Char) (position slashes : Nat)
    {content more : List Char} (ht : tag? ('[' :: (content ++ ']' :: more)) = some content)
    : ∃ next,
        piecesFrom plain position 0 0 (escapeTags slashes ('[' :: (content ++ ']' :: more))) =
          .text plain.reverse :: .text (List.replicate slashes '\\')
            :: .text ('[' :: content ++ [']']) :: piecesFrom [] next 0 0 (escapeTags 0 more) := by
  obtain ⟨-, hall, -⟩ := exists_of_tag? ht
  have hodd : (0 + (2 * slashes + 1)) % 2 = 1 := by omega
  have hhalf : (0 + (2 * slashes + 1)) / 2 = slashes := by omega
  have hpassed : content ++ [']'] ≠ [] := by simp
  have hskip := piecesFrom_skipped (position + (2 * slashes + 1) + 1) hpassed [] 0
    (escapeTags 0 more)
  rw [List.append_assoc] at hskip
  refine ⟨position + (2 * slashes + 1) + 1 + (content ++ [']']).length, ?_⟩
  rw [← hskip, List.length_append, escapeTags_of_tag ht, piecesFrom_replicate, piecesFrom,
    if_neg (Nat.lt_irrefl 0), if_neg (by decide), tag?_escapeTags, ht]
  dsimp only
  rw [if_pos hodd, hhalf, escapeTags_content hall]
  rfl

/-- Text that is escaped is read in parts that are all text, by induction on what is left of it. So
much of it has been passed since the last tag: some text that does not end in a backslash, and so
many backslashes.
-/
theorem piecesFrom_escapeTags (plain : List Char) (position slashes : Nat) (rest : List Char)
    (hp : plain.head? ≠ some '\\')
    (hn : StartsNoTag (plain.reverse ++ List.replicate slashes '\\' ++ rest)
      (plain.length + slashes))
    : ∃ parts, CutAtTags (plain.reverse ++ List.replicate slashes '\\' ++ rest) parts
        ∧ piecesFrom plain position 0 0 (escapeTags slashes rest) = parts.map .text := by
  cases rest with
  | nil =>
      refine ⟨_, .last fun place => ?_, ?_⟩
      · rcases Nat.lt_or_ge place (plain.length + slashes) with hlt | hge
        · exact hn place hlt
        · rw [List.drop_eq_nil_of_le (by simpa using hge)]
          rfl
      · have hpieces := piecesFrom_replicate plain position 0 slashes []
        rw [List.append_nil] at hpieces
        rw [escapeTags, hpieces, piecesFrom, Nat.zero_add, List.append_nil]
        rfl
  | cons c rest =>
      by_cases hc : c = '\\'
      · subst hc
        have htext : plain.reverse ++ List.replicate slashes '\\' ++ '\\' :: rest =
            plain.reverse ++ List.replicate (slashes + 1) '\\' ++ rest := by
          rw [List.replicate_succ']
          simp
        have hnext := hn.succ (length_passed plain slashes) (tag?_of_ne (by decide) rest)
        rw [htext] at hnext ⊢
        rw [escapeTags, if_pos rfl]
        exact piecesFrom_escapeTags plain position (slashes + 1) rest hp hnext
      · cases ht : tag? (c :: rest) with
        | none =>
            have htext : plain.reverse ++ List.replicate slashes '\\' ++ c :: rest =
                (c :: List.replicate slashes '\\' ++ plain).reverse ++ List.replicate 0 '\\'
                  ++ rest := by
              simp
            have hnext := hn.succ (length_passed plain slashes) ht
            have hlength : plain.length + slashes + 1 =
                (c :: List.replicate slashes '\\' ++ plain).length + 0 := by
              simp [Nat.add_comm]
            rw [htext, hlength] at hnext
            obtain ⟨parts, hcut, hread⟩ := piecesFrom_escapeTags
              (c :: List.replicate slashes '\\' ++ plain) (position + slashes + 1) 0 rest
              (by simpa using hc) hnext
            refine ⟨parts, htext ▸ hcut, ?_⟩
            rw [escapeTags_cons hc ht, piecesFrom_replicate, piecesFrom, if_neg (Nat.lt_irrefl 0),
              if_neg hc, tag?_escapeTags, ht, Nat.zero_add]
            exact hread
        | some content =>
            obtain ⟨rfl, hall, more, rfl⟩ := exists_of_tag? ht
            have htext : plain.reverse ++ List.replicate slashes '\\'
                ++ '[' :: (content ++ ']' :: more) =
                  plain.reverse ++ List.replicate slashes '\\' ++ ('[' :: content ++ [']'])
                    ++ more := by
              simp
            obtain ⟨next, hread⟩ := piecesFrom_escapedTag plain position slashes ht
            obtain ⟨parts, hcut, hrest⟩ := piecesFrom_escapeTags [] next 0 more nofun nofun
            refine ⟨_, .tag htext ?_ ?_ ?_ hcut, hread.trans (by rw [hrest]; rfl)⟩
            · rw [List.getLast?_reverse]
              exact hp
            · rw [List.length_reverse]
              exact hn
            · rw [List.length_reverse, List.drop_left' (length_passed plain slashes)]
              exact ht
termination_by rest.length

-----------------------------------------------------------------------------------------
-- Backslashes at the end
-----------------------------------------------------------------------------------------

/-- The text as it is shown for the markup that escapes it: a single backslash at its end is
doubled.
-/
def completed (text : List Char) : List Char :=
  if endsInBackslash text then text ++ ['\\'] else text

/-- Only what follows the last character that is no backslash matters for the end of a text. -/
theorem endsInBackslash_append {c : Char} (hc : c ≠ '\\') (before text : List Char)
    : endsInBackslash (before ++ c :: text) = endsInBackslash text := by
  rw [endsInBackslash, endsInBackslash, List.reverse_append, List.reverse_cons]
  cases text.reverse with
  | nil =>
      split
      · next heq => exact absurd (List.cons.inj heq).1 hc
      · rfl
  | cons d reversed =>
      by_cases hd : d = '\\'
      · subst hd
        cases reversed with
        | nil => exact bne_iff_ne.mpr fun he => hc (Option.some.inj he)
        | cons e reversed => rfl
      · have hne : ∀ {rest tail : List Char}, d :: rest = '\\' :: tail → False :=
          fun heq => hd (List.cons.inj heq).1
        split
        · next heq => exact (hne heq).elim
        · split
          · next heq => exact (hne heq).elim
          · rfl

/-- Escaping a text does not change how it ends, by induction on the text. -/
theorem endsInBackslash_escapeTags (slashes : Nat) (text : List Char)
    : endsInBackslash (escapeTags slashes text) =
        endsInBackslash (List.replicate slashes '\\' ++ text) := by
  induction text generalizing slashes with
  | nil => rw [escapeTags, List.append_nil]
  | cons c text ih =>
      by_cases hc : c = '\\'
      · subst hc
        rw [escapeTags, if_pos rfl, ih, List.replicate_succ', List.append_assoc]
        rfl
      · have hnext : ∀ count, endsInBackslash (List.replicate count '\\' ++ c :: escapeTags 0 text) =
            endsInBackslash (List.replicate slashes '\\' ++ c :: text) := by
          intro count
          rw [endsInBackslash_append hc, endsInBackslash_append hc, ih]
          rfl
        cases ht : tag? (c :: text) with
        | none => rw [escapeTags_cons hc ht, hnext]
        | some content =>
            obtain ⟨rfl, -⟩ := exists_of_tag? ht
            rw [escapeTags_of_tag ht, hnext]

/-- A backslash after a text neither completes a tag nor undoes one. -/
theorem tag?_append_backslash (text : List Char) : tag? (text ++ ['\\']) = tag? text := by
  refine Option.ext fun content => ?_
  rw [tag?_eq_some_iff, tag?_eq_some_iff]
  constructor
  · rintro ⟨c, inner, more, rfl, hc, hi, he⟩
    rcases List.eq_nil_or_concat more with rfl | ⟨more, d, rfl⟩
    · have hcut : text ++ ['\\'] = '[' :: (c :: inner) ++ [']'] := he
      exact absurd (List.append_inj' hcut rfl).2 (by decide)
    · have hcut : text ++ ['\\'] = '[' :: (c :: inner ++ ']' :: more) ++ [d] := by
        rw [he]
        simp
      exact ⟨c, inner, more, rfl, hc, hi, (List.append_inj' hcut rfl).1⟩
  · rintro ⟨c, inner, more, rfl, hc, hi, rfl⟩
    exact ⟨c, inner, more ++ ['\\'], rfl, hc, hi, by simp⟩

/-- A backslash after a text is escaped as it is, by induction on the text. -/
theorem escapeTags_append_backslash (slashes : Nat) (text : List Char)
    : escapeTags slashes (text ++ ['\\']) = escapeTags slashes text ++ ['\\'] := by
  induction text generalizing slashes with
  | nil =>
      show List.replicate (slashes + 1) '\\' = List.replicate slashes '\\' ++ ['\\']
      rw [List.replicate_succ']
  | cons c text ih =>
      by_cases hc : c = '\\'
      · subst hc
        rw [List.cons_append, escapeTags, if_pos rfl, ih, escapeTags, if_pos rfl]
      · have htag := tag?_append_backslash (c :: text)
        rw [List.cons_append] at htag ⊢
        cases ht : tag? (c :: text) with
        | none =>
            rw [escapeTags_cons hc (htag.trans ht), escapeTags_cons hc ht, ih]
            simp
        | some content =>
            obtain ⟨rfl, -⟩ := exists_of_tag? ht
            rw [escapeTags_of_tag (htag.trans ht), escapeTags_of_tag ht, ih]
            simp

/-- Escaping a text is escaping the tags of the completed text. -/
theorem escape_eq (text : List Char) : escape text = escapeTags 0 (completed text) := by
  have hend := endsInBackslash_escapeTags 0 text
  rw [List.replicate_zero, List.nil_append] at hend
  rw [escape, completed, hend]
  split
  · rw [escapeTags_append_backslash]
  · rfl

-----------------------------------------------------------------------------------------
-- What is shown
-----------------------------------------------------------------------------------------

/-- What is shown of a part of text. -/
def shownPart (part : List Char) : List Char :=
  (Display.Styled.plain (Emoji.replaceNames (freeBrackets part))).text

/-- Parts that are all text add what is shown of them, by induction on the parts. -/
theorem foldlM_add_texts (reading : Reading) (parts : List (List Char))
    : (parts.map .text).foldlM Reading.add reading =
        .ok { reading with text := reading.text ++ parts.flatMap shownPart } := by
  induction parts generalizing reading with
  | nil => simp [pure, Except.pure]
  | cons part parts ih =>
      rw [List.map_cons, List.foldlM_cons]
      show (parts.map .text).foldlM Reading.add (reading.addText _) = _
      rw [ih, List.flatMap_cons, ← List.append_assoc]
      rfl

/-- Escaped text after markup is shown in parts that make it up, and reading it never fails. The
markup before it ends in a space.
-/
theorem render_escape {before : List Char} {heading : List Piece} {position : Nat} {label : List Char}
    {span : Display.Span}
    (hp : ∀ rest, pieces (before ++ rest) = heading ++ piecesFrom [' '] position 0 0 rest)
    (hr : heading.foldlM Reading.add {} = .ok { text := label, spans := [span] })
    (text : List Char)
    : ∃ parts, CutAtTags (' ' :: completed text) parts
        ∧ render (before ++ escape text) = .ok ⟨label ++ parts.flatMap shownPart, [span]⟩ := by
  obtain ⟨parts, hcut, hread⟩ := piecesFrom_escapeTags [' '] position 0 (completed text)
    (by decide) fun place hplace => by
      obtain rfl : place = 0 := by simpa using hplace
      exact tag?_of_ne (by decide) _
  refine ⟨parts, hcut, ?_⟩
  rw [render, hp, escape_eq, hread, List.foldlM_append, hr]
  show ((parts.map .text).foldlM Reading.add _).map Reading.finish = _
  rw [foldlM_add_texts]
  simp [Except.map, Reading.finish]

end Markup

end SqlShell
