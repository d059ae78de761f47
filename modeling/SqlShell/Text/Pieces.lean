/-!
Cutting a text at a separator: all the pieces between its occurrences, or the parts around the
first or the last one.
-/

namespace SqlShell.Text

/-- The pieces of a text between the separators. -/
def pieces (separator : Char) : List Char → List (List Char)
  | [] => [[]]
  | c :: rest =>
      if c = separator then
        [] :: pieces separator rest
      else
        match pieces separator rest with
        | [] => [[c]]
        | piece :: more => (c :: piece) :: more

/-- The part before the first separator, and the part after it if there is one. -/
def cutAt (separator : Char) : List Char → List Char × Option (List Char)
  | [] => ([], none)
  | c :: rest =>
      if c = separator then
        ([], some rest)
      else
        let (before, after) := cutAt separator rest
        (c :: before, after)

/-- The part before the last separator, and the part after it if there is one. -/
def cutAtLast (separator : Char) (text : List Char) : List Char × Option (List Char) :=
  match cutAt separator text.reverse with
  | (after, some before) => (before.reverse, some after.reverse)
  | (_, none) => (text, none)

/-- A text without the separator is a single piece. -/
theorem pieces_of_not_mem {separator : Char} {text : List Char} (h : separator ∉ text)
    : pieces separator text = [text] := by
  induction text with
  | nil => rfl
  | cons c rest ih =>
      have hc : c ≠ separator := fun e => h (by simp [e])
      have hr : separator ∉ rest := fun e => h (by simp [e])
      simp [pieces, hc, ih hr]

/-- A text is cut at the first separator. -/
theorem cutAt_append {separator : Char} {before : List Char} (h : separator ∉ before)
    (after : List Char)
    : cutAt separator (before ++ separator :: after) = (before, some after) := by
  induction before with
  | nil => simp [cutAt]
  | cons c rest ih =>
      rw [List.mem_cons, not_or] at h
      simp [cutAt, Ne.symm h.1, ih h.2]

end SqlShell.Text
