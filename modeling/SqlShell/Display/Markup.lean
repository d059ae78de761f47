import SqlShell.Display.Action
import SqlShell.Display.Emoji
import SqlShell.Display.Styled
import SqlShell.Fault

/-!
Markup in text: tags in square brackets set a style and do not appear themselves. A tag after an
odd number of backslashes is ordinary text, which is how text is kept free of markup. Between tags
emoji are shown for their names.
-/

namespace SqlShell.Markup

open SqlShell.Display (Span Styled)

/-- The character may start a tag after its bracket. -/
def startsTag (c : Char) : Bool :=
  ('a' ≤ c && c ≤ 'z') || c == '#' || c == '/' || c == '@'

/-- The content of the tag that stands at the start of a text, if one does. A tag reaches to the
first closing bracket, and no other bracket is opened in it.
-/
def tag? : List Char → Option (List Char)
  | '[' :: c :: rest =>
      let content := rest.takeWhile fun d => d != ']' && d != '['
      if startsTag c && (rest.drop content.length).head? == some ']' then some (c :: content)
      else none
  | _ => none

/-- Writes backslashes before all tags, after the given number of backslashes. -/
def escapeTags : Nat → List Char → List Char
  | slashes, [] => List.replicate slashes '\\'
  | slashes, c :: rest =>
      if c = '\\' then
        escapeTags (slashes + 1) rest
      else if (tag? (c :: rest)).isSome then
        List.replicate (2 * slashes + 1) '\\' ++ c :: escapeTags 0 rest
      else
        List.replicate slashes '\\' ++ c :: escapeTags 0 rest

/-- The text ends in a single backslash. -/
def endsInBackslash (text : List Char) : Bool :=
  match text.reverse with
  | '\\' :: rest => rest.head? != some '\\'
  | _ => false

/-- The markup that shows a text as it is; a single backslash at its end is doubled. -/
def escape (text : List Char) : List Char :=
  let escaped := escapeTags 0 text
  if endsInBackslash escaped then escaped ++ ['\\'] else escaped

/-- A closing tag without a tag to close, with its content and place, a tag whose style has a color
of parts that are no numbers, or one whose action has wrong arguments.
-/
inductive Problem where
  | unmatched (content : List Char) (position : Nat)
  | nothingOpen (position : Nat)
  | style (problem : Style.Problem)
  | action (problem : Action.Problem)
  deriving DecidableEq, Repr

/-- The wording of a problem. -/
def Problem.message : Problem → String
  | .unmatched content position =>
      "closing tag '[" ++ String.ofList content ++ "]' at position " ++ toString position
        ++ " doesn't match any open tag"
  | .nothingOpen position =>
      "closing tag '[/]' at position " ++ toString position ++ " has nothing to close"
  | .style problem => problem.problem.message 10 problem.text
  | .action problem => problem.message

/-- The kind of fault of a problem. -/
def Problem.kind : Problem → FaultKind
  | .style _ => .value .general
  | _ => .markup

/-- The fault of a problem. -/
def Problem.fault (problem : Problem) : Fault :=
  { kind := problem.kind, message := problem.message }

/-- A piece of markup: text, or the content of a tag with its place. -/
inductive Piece where
  | text (text : List Char)
  | tag (content : List Char) (position : Nat)
  deriving DecidableEq, Repr

/-- The pieces of markup from a place on. Before it stand some text, given from its end, and so many
backslashes, and so many characters of a tag are still to be passed over. Backslashes before a
tag stand for half as many; one that is left over makes the tag ordinary text.
-/
def piecesFrom (plain : List Char) (position slashes skipped : Nat) : List Char → List Piece
  | [] => [.text (plain.reverse ++ List.replicate slashes '\\')]
  | c :: rest =>
      if 0 < skipped then
        piecesFrom [] (position + 1) 0 (skipped - 1) rest
      else if c = '\\' then
        piecesFrom plain (position + 1) (slashes + 1) 0 rest
      else
        match tag? (c :: rest) with
        | some content =>
            let found :=
              if slashes % 2 = 1 then .text (c :: content ++ [']']) else .tag content position
            .text plain.reverse :: .text (List.replicate (slashes / 2) '\\') :: found
              :: piecesFrom [] (position + 1) 0 (content.length + 1) rest
        | none =>
            piecesFrom (c :: List.replicate slashes '\\' ++ plain) (position + 1) 0 0 rest

/-- The pieces of markup. -/
def pieces (markup : List Char) : List Piece :=
  piecesFrom [] 0 0 0 markup

/-- The text without a backslash before each bracket. -/
def freeBrackets : List Char → List Char
  | '\\' :: '[' :: rest => '[' :: freeBrackets rest
  | c :: rest => c :: freeBrackets rest
  | [] => []

/-- A tag that is open: the name of its style, what follows an equals sign in it, and the place in
the text from which it counts.
-/
structure Opened where
  name : List Char
  parameters : Option (List Char)
  start : Nat
  deriving DecidableEq, Repr

namespace Opened

/-- The words that describe the style of a tag. -/
def style (tag : Opened) : List Char :=
  match tag.parameters with
  | none => tag.name
  | some parameters => tag.name ++ ' ' :: parameters

/-- What a tag covers if it counts up to a place. -/
def span (tag : Opened) (stop : Nat) : Span :=
  ⟨tag.start, stop, tag.style⟩

/-- What a tag covers if it is closed at a place. A tag for an action has no style, but arguments
that are read when it is closed.
-/
def close (tag : Opened) (stop : Nat) : Except Problem Span :=
  if tag.name.head? == some '@' then
    ((Action.check (tag.parameters.getD [])).mapError .action).map fun _ => ⟨tag.start, stop, []⟩
  else
    .ok (tag.span stop)

end Opened

/-- Markup that has been read in part: the text, the spans of the tags that are closed and the tags
that are open, the latest first.
-/
structure Reading where
  text : List Char := []
  spans : List Span := []
  opened : List Opened := []

namespace Reading

/-- Adds text, without characters that are not shown. -/
def addText (reading : Reading) (text : List Char) : Reading :=
  { reading with text := reading.text ++ (Styled.plain text).text }

/-- Closes the latest open tag that passes a test, if there is one. -/
def close (reading : Reading) (test : Opened → Bool) (missing : Problem)
    : Except Problem Reading := do
  match reading.opened.find? test with
  | none => .error missing
  | some tag =>
      return { reading with
        spans := (← tag.close reading.text.length) :: reading.spans,
        opened := reading.opened.eraseP test }

/-- Follows a tag. A closing tag without a name closes the latest one, and one with a name the
latest one with that name.
-/
def follow (reading : Reading) (content : List Char) (position : Nat)
    : Except Problem Reading := do
  let (name, parameters) := Text.cutAt '=' content
  match name with
  | '/' :: closed =>
      let closed := Text.trim closed
      if closed.isEmpty then
        reading.close (fun _ => true) (.nothingOpen position)
      else
        let name ← (Style.nameOf closed).mapError .style
        reading.close (·.name == name) (.unmatched content position)
  | _ =>
      let name ← (Style.nameOf name).mapError .style
      return { reading with opened := ⟨name, parameters, reading.text.length⟩ :: reading.opened }

/-- Reads a piece of markup. -/
def add (reading : Reading) : Piece → Except Problem Reading
  | .text text => .ok (reading.addText (Emoji.replaceNames (freeBrackets text)))
  | .tag content position => reading.follow content position

/-- The text with its spans in the order of their starts; of tags that start at one place, the one
that ends the last comes first. Tags that are still open count up to the end.
-/
def finish (reading : Reading) : Styled :=
  let left := reading.opened.map (·.span reading.text.length)
  { text := reading.text,
    spans := (left.reverse ++ reading.spans).mergeSort fun a b => a.start ≤ b.start }

end Reading

/-- The text that markup shows, with its styles. -/
def render (markup : List Char) : Except Problem Styled :=
  ((pieces markup).foldlM Reading.add {}).map Reading.finish

example : escape "[a] [1] \\[b]".toList = "\\[a] [1] \\\\\\[b]".toList := by decide +kernel
example : (render "[b]x[/bold] \\[c]".toList).toOption
    = some ⟨"x [c]".toList, [⟨0, 1, "bold".toList⟩]⟩ := by cbv

end SqlShell.Markup
