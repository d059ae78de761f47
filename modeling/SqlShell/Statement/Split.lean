import SqlShell.Statement.Scan

/-!
Statements of a script: a statement ends on the first line whose code ends with the terminator,
a literal may span lines, and lines that are only a comment are left out.
-/

namespace SqlShell.Statement

open SqlShell.Text

/-- The statement that the collected lines make: their text without outer blanks and without
one terminator at its end, or nothing if that is empty.
-/
def ofLines? (lines : List (List Char)) : Option (List Char) :=
  let text := trim (joinLines lines)
  let body := if endsWithTerminator text then trimEnd text.dropLast else text
  if body.isEmpty then none else some body

/-- The statements of the remaining lines, given the literal that is open before them and the
lines already collected for the statement under way.
-/
def splitRest : Option Quote → List (List Char) → List (List Char) → List (List Char)
  | _, collected, [] => (ofLines? collected).toList
  | quote, collected, line :: lines =>
      let (code, after) := scan quote line
      if quote.isNone && isCommentLine line then
        splitRest after collected lines
      else if after.isNone && endsWithTerminator code then
        (ofLines? (collected ++ [code])).toList ++ splitRest none [] lines
      else
        splitRest after (collected ++ [line]) lines

/-- The statements of a script in order. A last statement needs no terminator, and empty
statements are skipped.
-/
def split (content : List Char) : List (List Char) :=
  splitRest none [] (splitLines content)

/-- Whether the last of the lines ends a statement, given the literal open before them and the
answer for the line before them.
-/
def completeRest : Option Quote → Bool → List (List Char) → Bool
  | _, complete, [] => complete
  | quote, _, line :: lines =>
      completeRest (scan quote line).2 (endsStatement quote line) lines

/-- The last line of the text ends a statement. -/
def isComplete (text : List Char) : Bool :=
  completeRest none false (splitLines text)

end SqlShell.Statement
