import Mathlib.Data.List.DropRight
import SqlShell.Text.Blank

/-! Trimming takes blanks from the ends of a text and nothing else. -/

namespace SqlShell.Text

/-- Dropping an ending is the library's dropping from the right, by induction on the text. -/
theorem dropEndWhile_eq_rdropWhile (p : Char → Bool) (text : List Char)
    : dropEndWhile p text = text.rdropWhile p := by
  induction text with
  | nil => rfl
  | cons c rest ih =>
      rw [dropEndWhile, ih, List.rdropWhile, List.rdropWhile, List.reverse_cons,
        List.dropWhile_append]
      cases hr : rest.reverse.dropWhile p with
      | nil =>
          cases hc : p c <;> simp [hc]
      | cons d kept => simp

/-- Blanks at the end do not change what trimming the end leaves. -/
theorem trimEnd_append_of_blank (text : List Char) {blanks : List Char}
    (h : ∀ c ∈ blanks, isBlank c = true)
    : trimEnd (text ++ blanks) = trimEnd text := by
  have hr : ∀ c ∈ blanks.reverse, isBlank c = true := by simpa using h
  simp only [trimEnd, dropEndWhile_eq_rdropWhile, List.rdropWhile, List.reverse_append,
    List.dropWhile_append_of_pos hr]

/-- A text is what trimming its end leaves, followed by blanks. -/
theorem exists_trimEnd (text : List Char)
    : ∃ blanks, (∀ c ∈ blanks, isBlank c = true) ∧ text = trimEnd text ++ blanks := by
  refine ⟨text.rtakeWhile isBlank, fun c hc => List.mem_rtakeWhile_imp hc, ?_⟩
  rw [trimEnd, dropEndWhile_eq_rdropWhile, List.rdropWhile_append_rtakeWhile]

theorem isPrefix_trimEnd (text : List Char) : trimEnd text <+: text := by
  obtain ⟨blanks, -, he⟩ := exists_trimEnd text
  exact ⟨blanks, he.symm⟩

/-- A text is blanks followed by what trimming its start leaves. -/
theorem exists_trimStart (text : List Char)
    : ∃ blanks, (∀ c ∈ blanks, isBlank c = true) ∧ text = blanks ++ trimStart text :=
  ⟨text.takeWhile isBlank, fun _ hc => (List.all_eq_true.mp List.all_takeWhile) _ hc,
    List.takeWhile_append_dropWhile.symm⟩

/-- Blanks at the start do not change what trimming leaves. -/
theorem trim_append_of_blank {blanks : List Char} (h : ∀ c ∈ blanks, isBlank c = true)
    (text : List Char)
    : trim (blanks ++ text) = trim text := by
  rw [trim, trimStart, List.dropWhile_append_of_pos h, trim, trimStart]

/-- A text is blank exactly if trimming leaves nothing of it. -/
theorem trim_eq_nil_iff (text : List Char)
    : trim text = [] ↔ ∀ c ∈ text, isBlank c = true := by
  constructor
  · intro h
    obtain ⟨front, hfront, he⟩ := exists_trimStart text
    obtain ⟨back, hback, hb⟩ := exists_trimEnd (trimStart text)
    rw [trim] at h
    rw [h, List.nil_append] at hb
    rw [he, hb]
    intro c hc
    rcases List.mem_append.mp hc with hc | hc
    · exact hfront c hc
    · exact hback c hc
  · intro h
    have ht := trim_append_of_blank h []
    rw [List.append_nil] at ht
    exact ht

end SqlShell.Text
