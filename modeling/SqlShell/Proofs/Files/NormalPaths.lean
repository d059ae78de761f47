import SqlShell.Files.Path

/-! Texts of absolute paths in normal form are those that stay as they are when the path that they name
is written again.
-/

namespace SqlShell

namespace Text

variable {separator : Char}

/-- A piece in front of a separator is the first one, by induction on it. -/
theorem pieces_append {piece : List Char} (h : separator ∉ piece) (rest : List Char)
    : pieces separator (piece ++ separator :: rest) = piece :: pieces separator rest := by
  induction piece with
  | nil => simp [pieces]
  | cons c more ih =>
      obtain ⟨hc, hmore⟩ := not_or.mp (mt List.mem_cons.mpr h)
      rw [List.cons_append, pieces, if_neg (Ne.symm hc), ih hmore]

/-- Pieces with a separator between any two are the pieces of their text, by induction on them. -/
theorem pieces_intercalate {parts : List (List Char)} (hne : parts ≠ [])
    (h : ∀ part ∈ parts, separator ∉ part)
    : pieces separator ([separator].intercalate parts) = parts := by
  induction parts with
  | nil => exact absurd rfl hne
  | cons part rest ih =>
      obtain ⟨hpart, hrest⟩ := List.forall_mem_cons.mp h
      cases rest with
      | nil => rw [List.intercalate_singleton, pieces_of_not_mem hpart]
      | cons next more =>
          rw [List.intercalate_cons_cons, List.append_assoc, List.singleton_append,
            pieces_append hpart, ih (List.cons_ne_nil _ _) hrest]

/-- No piece holds the separator, by induction on the text. -/
theorem not_mem_of_mem_pieces {text piece : List Char} (h : piece ∈ pieces separator text)
    : separator ∉ piece := by
  induction text generalizing piece with
  | nil =>
      obtain rfl := List.mem_singleton.mp h
      exact List.not_mem_nil
  | cons c rest ih =>
      rw [pieces] at h
      split at h
      · rcases List.mem_cons.mp h with rfl | h
        · exact List.not_mem_nil
        · exact ih h
      · next hc =>
          split at h
          · obtain rfl := List.mem_singleton.mp h
            exact fun hs => hc (List.mem_singleton.mp hs).symm
          · next first more he =>
              rcases List.mem_cons.mp h with rfl | h
              · rw [List.mem_cons, not_or]
                exact ⟨fun hs => hc hs.symm, ih (he ▸ List.mem_cons_self)⟩
              · exact ih (he ▸ List.mem_cons_of_mem first h)

end Text

namespace Path

/-- The component is neither empty nor stands for the directory that it is in. -/
def IsProper (part : List Char) : Prop :=
  part ≠ [] ∧ part ≠ ['.'] ∧ '/' ∉ part

/-- The text of an absolute path in normal form: one or two separators, and components with one
separator between any two.
-/
def IsNormal (text : List Char) : Prop :=
  ∃ root parts, (root = ['/'] ∨ root = ['/', '/'])
    ∧ (∀ part ∈ parts, IsProper part)
    ∧ text = root ++ ['/'].intercalate parts

/-- The components that the pieces of a text leave. -/
def components (text : List Char) : List (List Char) :=
  (Text.pieces '/' text).filter fun piece => !piece.isEmpty && piece != ['.']

variable {text root body : List Char} {parts : List (List Char)}

theorem ofText_eq (text : List Char)
    : ofText text = ⟨anchorOf text, (components text).map String.ofList⟩ :=
  rfl

theorem isProper_of_mem_components {part : List Char} (h : part ∈ components text) : IsProper part := by
  obtain ⟨hp, hkept⟩ := List.mem_filter.mp h
  simp only [Bool.and_eq_true, Bool.not_eq_true', List.isEmpty_eq_false_iff, bne_iff_ne] at hkept
  exact ⟨hkept.1, hkept.2, Text.not_mem_of_mem_pieces hp⟩

/-- Proper components are those of their text. -/
theorem components_intercalate (h : ∀ part ∈ parts, IsProper part)
    : components (['/'].intercalate parts) = parts := by
  by_cases hne : parts = []
  · rw [hne]
    rfl
  · rw [components, Text.pieces_intercalate hne fun part hp => (h part hp).2.2]
    refine List.filter_eq_self.mpr fun part hp => ?_
    obtain ⟨hempty, hdot, -⟩ := h part hp
    simp [hempty, hdot]

/-- Separators in front of a text add no component. -/
theorem components_append (hr : root = ['/'] ∨ root = ['/', '/']) (body : List Char)
    : components (root ++ body) = components body := by
  rcases hr with rfl | rfl <;> simp [components, Text.pieces]

-----------------------------------------------------------------------------------------
-- Where a path starts
-----------------------------------------------------------------------------------------

/-- Components with separators between them do not start with a separator. -/
theorem head?_intercalate (h : ∀ part ∈ parts, IsProper part)
    : (['/'].intercalate parts).head? ≠ some '/' := by
  cases parts with
  | nil => exact nofun
  | cons part rest =>
      obtain ⟨hne, -, hsep⟩ := h part List.mem_cons_self
      obtain ⟨c, more, rfl⟩ := List.exists_cons_of_ne_nil hne
      have hhead : (['/'].intercalate ((c :: more) :: rest)).head? = some c := by
        cases rest <;> simp [List.intercalate]
      rw [hhead]
      rintro ⟨⟩
      exact hsep List.mem_cons_self

theorem anchorText_anchorOf (hr : root = ['/'] ∨ root = ['/', '/']) (hb : body.head? ≠ some '/')
    : (anchorText (anchorOf (root ++ body))).toList = root := by
  cases body with
  | nil => rcases hr with rfl | rfl <;> rfl
  | cons c rest =>
      have hc : c ≠ '/' := fun he => hb (by rw [he]; rfl)
      rcases hr with rfl | rfl <;> simp [anchorOf, anchorText, hc]

theorem anchorOf_of_head? (h : text.head? = some '/')
    : anchorOf text = .root ∨ anchorOf text = .doubleRoot := by
  obtain ⟨rest, rfl⟩ := List.head?_eq_some_iff.mp h
  rw [anchorOf.eq_def]
  split <;> simp_all

/-- The text of a path from a root is written from that root on. -/
theorem toList_text {path : Path} (h : path.anchor = .root ∨ path.anchor = .doubleRoot)
    : path.text.toList =
        (anchorText path.anchor).toList ++ ['/'].intercalate (path.parts.map String.toList) := by
  have hroot : anchorText path.anchor ≠ "" := by
    rcases h with h | h <;> rw [h] <;> decide
  have hbody : (anchorText path.anchor ++ "/".intercalate path.parts).isEmpty = false := by
    rw [String.isEmpty_eq_false_iff]
    intro he
    exact hroot (String.append_eq_empty_iff.mp he).1
  rw [text, hbody, if_neg Bool.false_ne_true, String.toList_append, String.toList_intercalate]
  rfl

/-- The path of a text that starts with a separator is written as its root and the components. -/
theorem toList_text_ofText (h : text.head? = some '/')
    : (ofText text).text.toList =
        (anchorText (anchorOf text)).toList ++ ['/'].intercalate (components text) := by
  rw [toList_text (anchorOf_of_head? h), ofText_eq, List.map_map]
  simp

/-- A text is the one of an absolute path in normal form just if it starts with a separator and the
path that it names is written as this text.
-/
theorem isNormal_iff (text : List Char)
    : IsNormal text ↔ text.head? = some '/' ∧ (ofText text).text = String.ofList text := by
  constructor
  · rintro ⟨root, parts, hr, hp, rfl⟩
    have hhead : (root ++ ['/'].intercalate parts).head? = some '/' := by
      rcases hr with rfl | rfl <;> rfl
    refine ⟨hhead, String.toList_injective ?_⟩
    rw [toList_text_ofText hhead, anchorText_anchorOf hr (head?_intercalate hp),
      components_append hr, components_intercalate hp, String.toList_ofList]
  · rintro ⟨hhead, htext⟩
    refine ⟨(anchorText (anchorOf text)).toList, components text, ?_,
      fun _ => isProper_of_mem_components, ?_⟩
    · rcases anchorOf_of_head? hhead with h | h <;> rw [h]
      · exact Or.inl rfl
      · exact Or.inr rfl
    · rw [← toList_text_ofText hhead, htext, String.toList_ofList]

end Path

end SqlShell
