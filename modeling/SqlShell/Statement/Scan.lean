import SqlShell.Text.Blank
import SqlShell.Text.Lines

/-!
Reading one line of SQL text: where its comment starts, and which quoted literal is still open
at its end.
-/

namespace SqlShell.Statement

open SqlShell.Text

/-- The two kinds of quotes that enclose a literal. -/
inductive Quote where
  | single
  | double
  deriving DecidableEq, Repr

/-- The character of a quote. -/
def Quote.char : Quote → Char
  | .single => '\''
  | .double => '"'

/-- The quote that a character is, if it is one. -/
def Quote.ofChar? (c : Char) : Option Quote :=
  if c = '\'' then some .single else if c = '"' then some .double else none

/-- Reading the character of a quote gives the quote, by its two cases. -/
@[simp]
theorem Quote.ofChar?_char (quote : Quote) : Quote.ofChar? quote.char = some quote := by
  cases quote <;> rfl

/-- What a character does to the literal that is open before it: its own quote closes it, and
outside a literal any quote opens one. A doubled quote closes and opens again.
-/
def nextQuote (quote : Option Quote) (c : Char) : Option Quote :=
  match quote with
  | some open_ => if c = open_.char then none else quote
  | none => Quote.ofChar? c

/-- The part of a line before its comment, and the literal still open at its end. A comment
starts with two dashes outside a literal.
-/
def beforeComment : Option Quote → List Char → List Char × Option Quote
  | quote, [] => ([], quote)
  | none, '-' :: '-' :: _ => ([], none)
  | quote, c :: rest =>
      let (kept, after) := beforeComment (nextQuote quote c) rest
      (c :: kept, after)

/-- The code of a line, which is what precedes its comment without trailing blanks, and the
literal still open at its end. The first argument is the literal open at its start.
-/
def scan (quote : Option Quote) (line : List Char) : List Char × Option Quote :=
  let (kept, after) := beforeComment quote line
  (trimEnd kept, after)

/-- The line is nothing but a comment. -/
def isCommentLine (line : List Char) : Bool :=
  ['-', '-'].isPrefixOf (trimStart line)

/-- The text ends with the terminator of statements. -/
def endsWithTerminator (code : List Char) : Bool :=
  code.getLast? == some ';'

/-- The line ends a statement: no literal is open at its end and its code ends with the
terminator. The literal open at its start is given.
-/
def endsStatement (quote : Option Quote) (line : List Char) : Bool :=
  let (code, after) := scan quote line
  after.isNone && endsWithTerminator code

end SqlShell.Statement
