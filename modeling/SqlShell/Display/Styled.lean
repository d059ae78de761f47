import SqlShell.Display.Style
import SqlShell.Text.Pieces

/-!
Text with styles: spans of a text, each with words that describe its style. Dividing a text, joining
texts and taking the start of one keep each span with the characters it lies on. A text is shown
in segments, which are measured one by one: it is cut wherever a span starts or stops.
-/

namespace SqlShell.Display

open SqlShell.Text

/-- A part of a text from one place to another, and the words that describe its style. -/
structure Span where
  start : Nat
  stop : Nat
  style : List Char
  deriving DecidableEq, Repr

namespace Span

/-- The span with both places moved on. -/
def shift (distance : Nat) (span : Span) : Span :=
  { span with start := distance + span.start, stop := distance + span.stop }

/-- What a span covers of the text between two places, counted from the first one. -/
def within? (first last : Nat) (span : Span) : Option Span :=
  let start := max span.start first - first
  let stop := min span.stop last - first
  if start < stop then some { span with start, stop } else none

/-- What a span covers before a place at which the text ends; one that starts there is lost. -/
def before? (last : Nat) (span : Span) : Option Span :=
  if span.start < last then some { span with stop := min last span.stop } else none

end Span

/-- A text and the spans of it that have a style. -/
structure Styled where
  text : List Char := []
  spans : List Span := []
  deriving DecidableEq, Repr

/-- The characters that a terminal acts upon and that are not shown. -/
def isControl (c : Char) : Bool :=
  let n := c.toNat
  n == 7 || n == 8 || n == 11 || n == 12 || n == 13

namespace Styled

/-- A text without styles; characters that are not shown are left out. -/
def plain (text : List Char) : Styled :=
  { text := text.filter (!isControl ·) }

/-- The text followed by another one. -/
def append (first second : Styled) : Styled :=
  { text := first.text ++ second.text,
    spans := first.spans ++ second.spans.map (Span.shift first.text.length) }

/-- Texts one after another. -/
def concat (parts : List Styled) : Styled :=
  parts.foldr append {}

/-- The given part of the text, which starts at a place. -/
def part (styled : Styled) (start : Nat) (text : List Char) : Styled :=
  { text, spans := styled.spans.filterMap (Span.within? start (start + text.length)) }

/-- The parts of a text between places in rising order; a text that is divided nowhere stays as it
is, with its empty spans.
-/
def divide (places : List Nat) (styled : Styled) : List Styled :=
  if places.isEmpty then [styled] else go 0 places styled.text
where
  go (start : Nat) : List Nat → List Char → List Styled
    | [], rest => [styled.part start rest]
    | place :: places, rest =>
        let size := place - start
        styled.part start (rest.take size) :: go place places (rest.drop size)

/-- The lines of a text, without the line feeds between them. -/
def lines (styled : Styled) : List Styled :=
  if styled.text.contains '\n' then go 0 (pieces '\n' styled.text) else [styled]
where
  go (start : Nat) : List (List Char) → List Styled
    | [] => []
    | line :: rest => styled.part start line :: go (start + line.length + 1) rest

/-- The styled text with another text; if that is shorter, spans end with it. -/
def withText (text : List Char) (styled : Styled) : Styled :=
  if text.length < styled.text.length then
    { text, spans := styled.spans.filterMap (Span.before? text.length) }
  else
    { styled with text }

/-- The text with so many spaces after it; spans that reach its end go on over them. -/
def extend (count : Nat) (styled : Styled) : Styled :=
  let size := styled.text.length
  let more (span : Span) : Span :=
    if size ≤ span.stop then { span with stop := span.stop + count } else span
  { text := styled.text ++ List.replicate count ' ', spans := styled.spans.map more }

/-- Reads the styles of all spans; words that describe none do no harm. -/
def readStyles (styled : Styled) : Except Style.Problem Unit :=
  styled.spans.forM fun span => (Style.ofWords? {} (Style.wordsOf span.style)).map fun _ => ()

/-- The parts of the text between the places where spans start or stop. -/
def segments (styled : Styled) : List (List Char) :=
  let places := styled.spans.flatMap fun span => [span.start, span.stop]
  (cut 0 (places.mergeSort (· ≤ ·)) styled.text).filter (!·.isEmpty)
where
  cut (start : Nat) : List Nat → List Char → List (List Char)
    | [], rest => [rest]
    | place :: places, rest =>
        rest.take (place - start) :: cut (max start place) places (rest.drop (place - start))

/-- Dividing a text loses none of its characters. -/
theorem flatten_divide (places : List Nat) (styled : Styled)
    : ((styled.divide places).map Styled.text).flatten = styled.text := by
  have h : ∀ start places rest,
      ((divide.go styled start places rest).map Styled.text).flatten = rest := by
    intro start places
    induction places generalizing start with
    | nil => simp [divide.go, part]
    | cons place places ih => simp [divide.go, part, ih]
  unfold divide
  split
  · simp
  · exact h 0 places styled.text

/-- The segments of a text are its text, in parts. -/
theorem flatten_segments (styled : Styled) : styled.segments.flatten = styled.text := by
  have h : ∀ start places rest, (segments.cut start places rest).flatten = rest := by
    intro start places
    induction places generalizing start with
    | nil => simp [segments.cut]
    | cons place places ih => simp [segments.cut, ih]
  have hf : ∀ parts : List (List Char), (parts.filter (!·.isEmpty)).flatten = parts.flatten := by
    intro parts
    induction parts with
    | nil => rfl
    | cons first rest ih => cases first <;> simp_all
  rw [segments, hf, h]

example : segments ⟨"abcd".toList, [⟨1, 3, ['b']⟩, ⟨2, 2, ['i']⟩]⟩
    = ["a".toList, "b".toList, "c".toList, "d".toList] := by cbv

end Styled

end SqlShell.Display
