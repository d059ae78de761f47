import SqlShell.Proofs.Display.EscapedText

/-! How text is altered on its way to the terminal: backslashes before brackets go, emoji come for
their names, and some characters are not shown. Whatever is altered loses one of a few characters
and gains none of them, so that no alteration can undo another one.
-/

namespace SqlShell

namespace Text

/-- The codes of the characters that text loses when it is altered: backslashes, colons, opening
brackets, and the characters that are not shown.
-/
def isMarkCode (n : Nat) : Bool :=
  n < 128 && (n == 92 || n == 58 || n == 91 || n == 7 || n == 8 || n == 11 || n == 12 || n == 13)

/-- The character is one that text loses when it is altered. -/
def isMark (c : Char) : Bool :=
  isMarkCode c.toNat

/-- The number of such characters. -/
def marks (text : List Char) : Nat :=
  text.countP isMark

theorem marks_append (first second : List Char)
    : marks (first ++ second) = marks first + marks second :=
  List.countP_append

theorem marks_cons (c : Char) (rest : List Char)
    : marks (c :: rest) = (if isMark c then 1 else 0) + marks rest := by
  rw [marks, List.countP_cons, Nat.add_comm]
  rfl

/-- What the function alters loses marks. -/
def Loses (f : List Char → List Char) : Prop :=
  ∀ text, f text = text ∨ marks (f text) < marks text

namespace Loses

variable {f g : List Char → List Char}

theorem le (h : Loses f) (text : List Char) : marks (f text) ≤ marks text := by
  rcases h text with he | hlt
  · exact Nat.le_of_eq (congrArg marks he)
  · exact Nat.le_of_lt hlt

/-- A text with all of its marks has not been altered. -/
theorem eq_of_le (h : Loses f) {text : List Char} (hm : marks text ≤ marks (f text))
    : f text = text :=
  (h text).resolve_right (Nat.not_lt.mpr hm)

/-- One alteration after another does not undo it. -/
theorem comp_eq_iff (hf : Loses f) (hg : Loses g) (text : List Char)
    : g (f text) = text ↔ f text = text ∧ g text = text := by
  constructor
  · intro h
    have hm : marks text ≤ marks (f text) := by
      rw [← congrArg marks h]
      exact hg.le (f text)
    have hfixed := hf.eq_of_le hm
    exact ⟨hfixed, by rwa [hfixed] at h⟩
  · rintro ⟨hfixed, hg⟩
    rw [hfixed, hg]

theorem comp (hf : Loses f) (hg : Loses g) : Loses fun text => g (f text) := by
  intro text
  rcases hf text with he | hlt
  · show g (f text) = text ∨ marks (g (f text)) < marks text
    rw [he]
    exact hg text
  · exact Or.inr (Nat.lt_of_le_of_lt (hg.le (f text)) hlt)

/-- Parts that are altered one by one make up the same text only if none of them is altered, by
induction on the parts.
-/
theorem flatMap_eq_flatten_iff (h : Loses f) (parts : List (List Char))
    : parts.flatMap f = parts.flatten ↔ ∀ part ∈ parts, f part = part := by
  have hle : ∀ parts : List (List Char), marks (parts.flatMap f) ≤ marks parts.flatten := by
    intro parts
    induction parts with
    | nil => exact Nat.le_refl _
    | cons part parts ih =>
        rw [List.flatMap_cons, List.flatten_cons, marks_append, marks_append]
        exact Nat.add_le_add (h.le part) ih
  induction parts with
  | nil => simp
  | cons part parts ih =>
      rw [List.flatMap_cons, List.flatten_cons, List.forall_mem_cons]
      refine Iff.trans ?_ (and_congr_right fun _ => ih)
      constructor
      · intro he
        have hm := congrArg marks he
        rw [marks_append, marks_append] at hm
        have hfixed : f part = part := h.eq_of_le (by have := hle parts; omega)
        rw [hfixed] at he
        exact ⟨hfixed, List.append_cancel_left he⟩
      · rintro ⟨hfixed, he⟩
        rw [hfixed, he]

end Loses

end Text

open Text

-----------------------------------------------------------------------------------------
-- Brackets
-----------------------------------------------------------------------------------------

/-- Freeing brackets loses the backslashes before them. -/
theorem Markup.loses_freeBrackets : Loses freeBrackets := by
  intro text
  fun_induction freeBrackets text with
  | case1 rest ih =>
      have hle : marks (freeBrackets rest) ≤ marks rest := by
        rcases ih with he | hlt
        · exact Nat.le_of_eq (congrArg marks he)
        · exact Nat.le_of_lt hlt
      have hslash : isMark '\\' = true := rfl
      refine Or.inr ?_
      rw [marks_cons, marks_cons, marks_cons, hslash, if_pos rfl]
      omega
  | case2 c rest hne ih =>
      rw [marks_cons, marks_cons]
      rcases ih with he | hlt
      · exact Or.inl (congrArg (c :: ·) he)
      · exact Or.inr (by omega)
  | case3 => exact Or.inl rfl

/-- No bracket is freed exactly if none stands after a backslash. -/
theorem Markup.freeBrackets_eq_self_iff (text : List Char)
    : freeBrackets text = text ↔ ¬ ['\\', '['] <:+: text := by
  fun_induction freeBrackets text with
  | case1 rest ih =>
      refine ⟨fun he => absurd (List.cons.inj he).1 (by decide), fun hn => absurd ?_ hn⟩
      exact (List.prefix_append ['\\', '['] rest).isInfix
  | case2 c rest hne ih =>
      rw [List.infix_cons_iff, not_or, List.cons.injEq, and_iff_right rfl, ih]
      refine (and_iff_right ?_).symm
      rintro ⟨more, he⟩
      obtain ⟨rfl, rfl⟩ := List.cons.inj he
      exact hne more rfl rfl
  | case3 => simp

-----------------------------------------------------------------------------------------
-- Emoji
-----------------------------------------------------------------------------------------

namespace Emoji

/-- A text has no marks if none of its bytes is the code of one. -/
theorem marks_of_bytes {text : String}
    (h : (text.toByteArray.data.toList.all fun byte => !isMarkCode byte.toNat) = true)
    : marks text.toList = 0 := by
  have hbytes : text.toByteArray.data.toList = text.toList.flatMap String.utf8EncodeChar := by
    conv_lhs => rw [← @String.ofList_toList text]
    exact List.toList_data_toByteArray
  rw [hbytes, List.all_eq_true] at h
  refine List.countP_eq_zero.mpr fun c hc hmark => ?_
  have hsmall : c.toNat < 128 := by
    rw [isMark, isMarkCode, Bool.and_eq_true, decide_eq_true_eq] at hmark
    exact hmark.1
  have hencoded : String.utf8EncodeChar c = [UInt8.ofNat c.toNat] :=
    if_pos (Nat.le_of_lt_succ hsmall)
  have hbyte := h (UInt8.ofNat c.toNat) (List.mem_flatMap.mpr ⟨c, hc, by rw [hencoded]; simp⟩)
  have hcode : (UInt8.ofNat c.toNat).toNat = c.toNat := by
    rw [UInt8.toNat_ofNat']
    exact Nat.mod_eq_of_lt (by omega)
  rw [hcode, Bool.not_eq_true'] at hbyte
  exact absurd hmark (by rw [isMark, hbyte]; exact Bool.false_ne_true)

/-- No emoji holds a mark. -/
theorem bytes_named : (named.all fun entry =>
      entry.1.toByteArray.data.toList.all fun byte => !isMarkCode byte.toNat) = true := by
  decide +kernel

theorem marks_listed? {name emoji : List Char} (h : listed? name = some emoji)
    : marks emoji = 0 := by
  obtain ⟨entry, hf, rfl⟩ := Option.map_eq_some_iff.mp h
  exact marks_of_bytes (List.all_eq_true.mp bytes_named entry (List.mem_of_find?_eq_some hf))

/-- What an ending means is listed. -/
theorem exists_of_ending? {α : Type} {endings : List (String × α)} {text before : List Char}
    {meaning : α} (h : ending? endings text = some (before, meaning))
    : ∃ ending, (ending, meaning) ∈ endings := by
  obtain ⟨⟨ending, listed⟩, hm, he⟩ := List.exists_of_findSome?_eq_some h
  dsimp only at he
  split at he
  · obtain ⟨-, rfl⟩ := Prod.mk.inj (Option.some.inj he)
    exact ⟨ending, hm⟩
  · exact nomatch he

/-- A tone adds no mark to an emoji, by the characters that it starts with. -/
theorem marks_inTone {tone : Char} (ht : isMark tone = false) {emoji : List Char}
    (h : marks emoji = 0)
    : marks (inTone tone emoji) = 0 := by
  have hcons : ∀ {c : Char} {rest : List Char}, marks (c :: rest) = 0 →
      isMark c = false ∧ marks rest = 0 := by
    intro c rest hm
    rw [marks_cons] at hm
    cases hc : isMark c with
    | false => exact ⟨rfl, by omega⟩
    | true => rw [hc, if_pos rfl] at hm; omega
  unfold inTone
  split
  · obtain ⟨hc, hm⟩ := hcons h
    obtain ⟨-, hm⟩ := hcons hm
    simp [marks_cons, hc, ht, hm]
  · obtain ⟨hc, hm⟩ := hcons h
    simp [marks_cons, hc, ht, hm]
  · rfl

theorem marks_find? {name emoji : List Char} (h : find? name = some emoji) : marks emoji = 0 := by
  rw [find?, Option.or_eq_some_iff] at h
  rcases h with h | ⟨-, h⟩
  · exact marks_listed? h
  · obtain ⟨⟨base, tone⟩, he, ht⟩ := Option.bind_eq_some_iff.mp h
    obtain ⟨ending, hm⟩ := exists_of_ending? he
    have htones : ∀ entry ∈ tones, isMark (Char.ofNat entry.2) = false := by decide +kernel
    dsimp only at ht
    split at ht
    · obtain ⟨own, hl, rfl⟩ := Option.map_eq_some_iff.mp ht
      exact marks_inTone (htones _ hm) (marks_listed? hl)
    · exact nomatch ht

/-- A text between colons is shown with them, or something without marks is shown for it. -/
theorem shown_eq_or (content : List Char)
    : shown content = ':' :: content ++ [':'] ∨ marks (shown content) = 0 := by
  rw [shown]
  cases he : ending? forms content with
  | none =>
      dsimp only
      split
      · next emoji hf => exact Or.inr (by rw [List.append_nil]; exact marks_find? hf)
      · exact Or.inl rfl
  | some found =>
      obtain ⟨name, form⟩ := found
      obtain ⟨ending, hm⟩ := exists_of_ending? he
      have hforms : ∀ entry ∈ forms, isMark entry.2 = false := by decide +kernel
      dsimp only
      split
      · next emoji hf =>
          refine Or.inr ?_
          rw [marks_append, marks_find? hf, marks_cons, hforms _ hm]
          rfl
      · exact Or.inl rfl

/-- A name that is passed over is left out. -/
theorem go_eq_drop (skipped : Nat) (text : List Char)
    : replaceNames.go skipped text = replaceNames.go 0 (text.drop skipped) := by
  induction text generalizing skipped with
  | nil => rw [List.drop_nil]; rfl
  | cons c rest ih =>
      cases skipped with
      | zero => rfl
      | succ skipped =>
          rw [replaceNames.go, if_pos (Nat.succ_pos skipped), Nat.add_sub_cancel, ih,
            List.drop_succ_cons]

/-- The text between two colons is followed by the second one. -/
theorem exists_of_content? {text content : List Char} (h : content? text = some content)
    : ∃ rest, text = content ++ ':' :: rest := by
  rw [content?] at h
  split at h
  · next hc =>
      rw [beq_iff_eq] at hc
      obtain rfl := Option.some.inj h
      exact eq_takeWhile_append hc
  · exact nomatch h

/-- Showing emoji for their names loses the colons around them, by induction on the text. -/
theorem loses_replaceNames : Loses replaceNames := by
  intro text
  show replaceNames.go 0 text = text ∨ marks (replaceNames.go 0 text) < marks text
  induction hl : text.length using Nat.strongRecOn generalizing text with
  | ind length ih =>
      cases text with
      | nil => exact Or.inl rfl
      | cons c rest =>
          have hcons : c :: replaceNames.go 0 rest = c :: rest
              ∨ marks (c :: replaceNames.go 0 rest) < marks (c :: rest) := by
            rw [marks_cons, marks_cons]
            rcases ih rest.length (by simp [← hl]) rest rfl with he | hlt
            · exact Or.inl (congrArg (c :: ·) he)
            · exact Or.inr (by omega)
          rw [replaceNames.go, if_neg (Nat.lt_irrefl 0)]
          split
          · next hcolon =>
              cases hc : content? rest with
              | none => exact hcons
              | some content =>
                  obtain ⟨more, rfl⟩ := exists_of_content? hc
                  obtain rfl := hcolon
                  have hmore := ih more.length (by simp [← hl]; omega) more rfl
                  have hmark : isMark ':' = true := rfl
                  have htext : marks (':' :: (content ++ ':' :: more)) =
                      marks (':' :: content ++ [':']) + marks more := by
                    rw [← marks_append]
                    simp
                  dsimp only
                  rw [go_eq_drop, List.drop_length_add_append, List.drop_one, List.tail_cons,
                    marks_append, htext]
                  rcases shown_eq_or content with he | hnone
                  · rw [he]
                    rcases hmore with hm | hlt
                    · exact Or.inl (by rw [hm]; simp)
                    · exact Or.inr (Nat.add_lt_add_left hlt _)
                  · refine Or.inr ?_
                    have hle : marks (replaceNames.go 0 more) ≤ marks more := by
                      rcases hmore with hm | hlt
                      · exact Nat.le_of_eq (congrArg marks hm)
                      · exact Nat.le_of_lt hlt
                    rw [hnone, List.cons_append, marks_cons, hmark, if_pos rfl]
                    omega
          · exact hcons

end Emoji

-----------------------------------------------------------------------------------------
-- Parts
-----------------------------------------------------------------------------------------

/-- Characters that are not shown are lost. -/
theorem Display.loses_plain : Loses fun text => (Styled.plain text).text := by
  intro text
  show text.filter (!isControl ·) = text ∨ marks (text.filter (!isControl ·)) < marks text
  induction text with
  | nil => exact Or.inl rfl
  | cons c rest ih =>
      cases hc : isControl c with
      | false =>
          rw [List.filter_cons_of_pos (by simp [hc]), marks_cons, marks_cons]
          rcases ih with he | hlt
          · exact Or.inl (congrArg (c :: ·) he)
          · exact Or.inr (by omega)
      | true =>
          have hmark : isMark c = true := by
            simp only [isControl, Bool.or_eq_true, beq_iff_eq] at hc
            simp only [isMark, isMarkCode, Bool.and_eq_true, Bool.or_eq_true, beq_iff_eq,
              decide_eq_true_eq]
            omega
          rw [List.filter_cons_of_neg (by simp [hc]), marks_cons, hmark, if_pos rfl]
          have hle : marks (rest.filter (!isControl ·)) ≤ marks rest := by
            rcases ih with he | hlt
            · exact Nat.le_of_eq (congrArg marks he)
            · exact Nat.le_of_lt hlt
          exact Or.inr (by omega)

/-- All characters of the text are shown. -/
theorem Display.plain_eq_self_iff (text : List Char)
    : (Styled.plain text).text = text ↔ ∀ c ∈ text, isControl c = false := by
  rw [Styled.plain, List.filter_eq_self]
  simp

/-- Nothing of the text is altered: no bracket stands after a backslash, no name of an emoji between
colons, and all characters are shown.
-/
structure IsKept (text : List Char) : Prop where
  no_bracket : ¬ ['\\', '['] <:+: text
  no_name : Emoji.replaceNames text = text
  shown : ∀ c ∈ text, Display.isControl c = false

namespace Markup

theorem loses_shownPart : Loses shownPart :=
  (loses_freeBrackets.comp Emoji.loses_replaceNames).comp Display.loses_plain

/-- A part of text is shown as it is exactly if nothing in it is altered. -/
theorem shownPart_eq_self_iff (part : List Char) : shownPart part = part ↔ IsKept part := by
  have hnames := loses_freeBrackets.comp Emoji.loses_replaceNames
  have hplain := hnames.comp_eq_iff Display.loses_plain part
  have hfree := loses_freeBrackets.comp_eq_iff Emoji.loses_replaceNames part
  rw [freeBrackets_eq_self_iff] at hfree
  rw [hfree, Display.plain_eq_self_iff] at hplain
  refine hplain.trans ⟨fun ⟨⟨hb, hn⟩, hs⟩ => ⟨hb, hn, hs⟩, fun ⟨hb, hn, hs⟩ => ⟨⟨hb, hn⟩, hs⟩⟩

/-- A text is shown as it is in its parts exactly if nothing in them is altered. -/
theorem flatMap_shownPart_eq_iff (parts : List (List Char))
    : parts.flatMap shownPart = parts.flatten ↔ ∀ part ∈ parts, IsKept part := by
  rw [loses_shownPart.flatMap_eq_flatten_iff]
  exact forall₂_congr fun part _ => shownPart_eq_self_iff part

end Markup

end SqlShell
