import Mathlib.Algebra.GroupWithZero.Nat
import SqlShell.Proofs.Display.AlteredText
import SqlShell.Proofs.Results

/-! Text that is read as markup is shown as it is exactly if it is free of markup: it holds no tag
and nothing else that is altered. Whatever is shown of other texts has lost a mark.
-/

namespace SqlShell.Markup

open Text

-----------------------------------------------------------------------------------------
-- Pieces
-----------------------------------------------------------------------------------------

/-- What is shown of a piece of markup. -/
def Piece.shown : Piece → List Char
  | .text part => shownPart part
  | .tag .. => []

/-- The marks of a piece of markup; those of a tag are lost. -/
def Piece.marks : Piece → Nat
  | .text part => Text.marks part
  | .tag .. => 0

theorem text_of_close {reading next : Reading} {test : Opened → Bool} {missing : Problem}
    (h : reading.close test missing = .ok next)
    : next.text = reading.text := by
  rw [Reading.close] at h
  split at h
  · exact nomatch h
  · next tag _ =>
      cases hc : tag.close reading.text.length with
      | error problem => rw [hc] at h; exact nomatch h
      | ok span =>
          rw [hc] at h
          exact Except.ok.inj h ▸ rfl

/-- A tag shows nothing. -/
theorem text_of_follow {reading next : Reading} {content : List Char} {position : Nat}
    (h : reading.follow content position = .ok next)
    : next.text = reading.text := by
  rw [Reading.follow] at h
  dsimp only at h
  split at h
  · next closed _ =>
      split at h
      · exact text_of_close h
      · cases hn : (Style.nameOf (trim closed)).mapError Problem.style with
        | error problem => rw [hn] at h; exact nomatch h
        | ok name =>
            rw [hn] at h
            exact text_of_close h
  · cases hn : (Style.nameOf (cutAt '=' content).1).mapError Problem.style with
    | error problem => rw [hn] at h; exact nomatch h
    | ok name =>
        rw [hn] at h
        exact Except.ok.inj h ▸ rfl

/-- Markup shows what its pieces show, by induction on them. -/
theorem text_of_foldlM {reading next : Reading} {parts : List Piece}
    (h : parts.foldlM Reading.add reading = .ok next)
    : next.text = reading.text ++ parts.flatMap Piece.shown := by
  induction parts generalizing reading with
  | nil =>
      obtain rfl := Except.ok.inj h
      rw [List.flatMap_nil, List.append_nil]
  | cons part parts ih =>
      rw [List.foldlM_cons] at h
      cases ha : reading.add part with
      | error problem => rw [ha] at h; exact nomatch h
      | ok middle =>
          rw [ha] at h
          have hmiddle : middle.text = reading.text ++ part.shown := by
            cases part with
            | text part => exact Except.ok.inj ha ▸ rfl
            | tag content position => rw [text_of_follow ha, Piece.shown, List.append_nil]
          rw [ih h, hmiddle, List.flatMap_cons, List.append_assoc]

theorem text_of_render {text : List Char} {styled : Display.Styled} (h : render text = .ok styled)
    : styled.text = (pieces text).flatMap Piece.shown := by
  obtain ⟨reading, hr, rfl⟩ := exists_of_map_eq_ok h
  exact text_of_foldlM hr

-----------------------------------------------------------------------------------------
-- Tags
-----------------------------------------------------------------------------------------

/-- No tag starts anywhere in the text. -/
def HasNoTag (text : List Char) : Prop :=
  ∀ place, tag? (text.drop place) = none

theorem HasNoTag.cons {c : Char} {rest : List Char} (hc : tag? (c :: rest) = none)
    (h : HasNoTag rest)
    : HasNoTag (c :: rest)
  | 0 => hc
  | place + 1 => h place

theorem HasNoTag.of_cons {c : Char} {rest : List Char} (h : HasNoTag (c :: rest)) : HasNoTag rest :=
  fun place => h (place + 1)

theorem marks_replicate (count : Nat) : marks (List.replicate count '\\') = count := by
  have hmark : isMark '\\' = true := rfl
  rw [marks, List.countP_replicate, if_pos hmark]

theorem marks_reverse (text : List Char) : marks text.reverse = marks text :=
  List.countP_reverse

/-- Text without tags is a single piece, and otherwise marks are lost with its tags. Before the text
stand other text, given from its end, and so many backslashes. By recursion on the text.
-/
theorem piecesFrom_cases (plain : List Char) (position slashes : Nat) (rest : List Char)
    : (HasNoTag rest ∧ piecesFrom plain position slashes 0 rest =
        [.text (plain.reverse ++ List.replicate slashes '\\' ++ rest)])
      ∨ (¬ HasNoTag rest ∧ ((piecesFrom plain position slashes 0 rest).map Piece.marks).sum <
        marks plain + slashes + marks rest) := by
  cases rest with
  | nil =>
      refine Or.inl ⟨fun place => ?_, by rw [piecesFrom, List.append_nil]⟩
      rw [List.drop_nil]
      rfl
  | cons c rest =>
      by_cases hc : c = '\\'
      · subst hc
        have hmark : isMark '\\' = true := rfl
        rw [piecesFrom, if_neg (Nat.lt_irrefl 0), if_pos rfl, marks_cons, hmark, if_pos rfl]
        rcases piecesFrom_cases plain (position + 1) (slashes + 1) rest with ⟨hn, hp⟩ | ⟨hn, hlt⟩
        · refine Or.inl ⟨hn.cons (tag?_of_ne (by decide) rest), ?_⟩
          rw [hp, List.replicate_succ']
          simp
        · exact Or.inr ⟨fun hall => hn hall.of_cons, by omega⟩
      · cases ht : tag? (c :: rest) with
        | none =>
            rw [piecesFrom, if_neg (Nat.lt_irrefl 0), if_neg hc, ht]
            dsimp only
            rcases piecesFrom_cases (c :: List.replicate slashes '\\' ++ plain) (position + 1) 0 rest
              with ⟨hn, hp⟩ | ⟨hn, hlt⟩
            · refine Or.inl ⟨hn.cons ht, ?_⟩
              rw [hp]
              simp
            · refine Or.inr ⟨fun hall => hn hall.of_cons, ?_⟩
              rw [marks_append, marks_cons, marks_replicate] at hlt
              rw [marks_cons]
              omega
        | some content =>
            refine Or.inr ⟨fun hall => Option.some_ne_none content (ht.symm.trans (hall 0)), ?_⟩
            obtain ⟨rfl, -, more, rfl⟩ := exists_of_tag? ht
            have hmark : isMark '[' = true := rfl
            have hpassed : content ++ [']'] ≠ [] := by simp
            have hskip := piecesFrom_skipped (position + 1) hpassed [] 0 more
            rw [List.length_append, List.length_singleton, List.append_assoc] at hskip
            have hmore : ((piecesFrom [] (position + 1 + (content.length + 1)) 0 0 more).map
                Piece.marks).sum ≤ marks more := by
              rcases piecesFrom_cases [] (position + 1 + (content.length + 1)) 0 more
                with ⟨-, hp⟩ | ⟨-, hlt⟩
              · rw [hp]
                simp [Piece.marks]
              · exact Nat.le_of_lt (by simpa [marks] using hlt)
            have hfound : Piece.marks (if slashes % 2 = 1 then .text ('[' :: content ++ [']'])
                else .tag content position) + slashes / 2 ≤ slashes + marks content := by
              split
              · show marks ('[' :: content ++ [']']) + slashes / 2 ≤ _
                rw [List.cons_append, marks_cons, hmark, if_pos rfl, marks_append]
                have hclose : marks [']'] = 0 := rfl
                omega
              · show 0 + slashes / 2 ≤ _
                omega
            rw [piecesFrom, if_neg (Nat.lt_irrefl 0), if_neg hc, ht]
            dsimp only
            rw [List.singleton_append] at hskip
            rw [hskip, List.map_cons, List.map_cons, List.map_cons, List.sum_cons, List.sum_cons,
              List.sum_cons, marks_cons, hmark, if_pos rfl, marks_append, marks_cons]
            simp only [Piece.marks, marks_reverse, marks_replicate] at hfound ⊢
            omega
termination_by rest.length

-----------------------------------------------------------------------------------------
-- Free text
-----------------------------------------------------------------------------------------

/-- The text is free of markup: it holds no tag and nothing in it is altered. -/
structure IsFree (text : List Char) : Prop where
  no_tag : HasNoTag text
  kept : IsKept text

/-- What is shown of pieces has no more marks than they have, by induction on them. -/
theorem marks_shown_le (parts : List Piece)
    : marks (parts.flatMap Piece.shown) ≤ (parts.map Piece.marks).sum := by
  induction parts with
  | nil => exact Nat.le_refl _
  | cons part parts ih =>
      have hpart : marks part.shown ≤ part.marks := by
        cases part with
        | text part => exact loses_shownPart.le part
        | tag content position => exact Nat.le_refl 0
      rw [List.flatMap_cons, marks_append, List.map_cons, List.sum_cons]
      exact Nat.add_le_add hpart ih

/-- What is shown of a text has no more marks than the text, and as many only if it is free of
markup.
-/
theorem marks_render {text : List Char} {styled : Display.Styled} (h : render text = .ok styled)
    : marks styled.text ≤ marks text ∧ (marks text ≤ marks styled.text → IsFree text) := by
  rw [text_of_render h, pieces]
  rcases piecesFrom_cases [] 0 0 text with ⟨hn, hp⟩ | ⟨-, hlt⟩
  · have hshown : (piecesFrom [] 0 0 0 text).flatMap Piece.shown = shownPart text := by
      rw [hp]
      exact List.flatMap_singleton ..
    rw [hshown]
    refine ⟨loses_shownPart.le text, fun hle => ⟨hn, ?_⟩⟩
    exact (shownPart_eq_self_iff text).mp (loses_shownPart.eq_of_le hle)
  · have hle := marks_shown_le (piecesFrom [] 0 0 0 text)
    have hnone : marks [] = 0 := rfl
    exact ⟨by omega, fun _ => by omega⟩

/-- Text is read as itself exactly if it is free of markup. -/
theorem render_eq_self_iff (text : List Char) : render text = .ok ⟨text, []⟩ ↔ IsFree text := by
  constructor
  · exact fun h => (marks_render h).2 (Nat.le_refl _)
  · intro h
    rcases piecesFrom_cases [] 0 0 text with ⟨-, hp⟩ | ⟨hn, -⟩
    · have hshown := foldlM_add_texts {} [text]
      rw [List.flatMap_singleton, (shownPart_eq_self_iff text).mpr h.kept] at hshown
      rw [render, pieces, hp]
      show ((List.map Piece.text [text]).foldlM Reading.add {}).map Reading.finish = _
      rw [hshown]
      simp [Except.map, Reading.finish]
    · exact absurd h.no_tag hn

end SqlShell.Markup
