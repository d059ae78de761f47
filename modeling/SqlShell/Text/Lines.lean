/-!
Lines of a text: which characters end a line, how a text falls into lines, and how the
spellings of a line end are made one.
-/

namespace SqlShell.Text

/-- The characters that end a line; a carriage return followed by a line feed is one end. -/
def isLineEnd (c : Char) : Bool :=
  let n := c.toNat
  (0x0A ≤ n && n ≤ 0x0D) || (0x1C ≤ n && n ≤ 0x1E) || n == 0x85 || n == 0x2028
    || n == 0x2029

/-- The lines of a text without their ends; an end at the very end starts no new line. -/
def splitLines : List Char → List (List Char)
  | [] => []
  | '\r' :: '\n' :: rest => [] :: splitLines rest
  | c :: rest =>
      if isLineEnd c then
        [] :: splitLines rest
      else
        match splitLines rest with
        | [] => [[c]]
        | line :: lines => (c :: line) :: lines

/-- The lines written one after another with a line feed between neighbours. -/
def joinLines : List (List Char) → List Char
  | [] => []
  | [line] => line
  | line :: lines => line ++ '\n' :: joinLines lines

/-- The text with each carriage return, alone or before a line feed, made a line feed. -/
def unifyLineEnds : List Char → List Char
  | [] => []
  | '\r' :: '\n' :: rest => '\n' :: unifyLineEnds rest
  | '\r' :: rest => '\n' :: unifyLineEnds rest
  | c :: rest => c :: unifyLineEnds rest

/-- A text without line ends that is not empty is its own only line, by induction. -/
theorem splitLines_of_noLineEnd {text : List Char} (h : ∀ c ∈ text, isLineEnd c = false)
    (hne : text ≠ [])
    : splitLines text = [text] := by
  induction text with
  | nil => exact absurd rfl hne
  | cons c rest ih =>
      have hc : isLineEnd c = false := h c List.mem_cons_self
      have hr : c ≠ '\r' := by
        rintro rfl
        exact absurd hc (by decide)
      rw [splitLines.eq_3 c rest (fun _ hcr _ => hr hcr)]
      cases rest with
      | nil => simp [hc, splitLines]
      | cons d rest' =>
          have := ih (fun x hx => h x (List.mem_cons_of_mem _ hx)) (by simp)
          simp [hc, this]

end SqlShell.Text
