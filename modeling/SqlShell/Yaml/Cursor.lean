/-!
A place in the text of a document: the characters from there on, with the number of characters,
lines and columns before it.
-/

namespace SqlShell.Yaml

/-- A place in a text. -/
structure Cursor where
  rest : List Char
  index : Nat := 0
  line : Nat := 0
  column : Nat := 0
  deriving Repr, Inhabited

/-- The character that stands for the end of the text, which holds none of it. -/
def endMark : Char := Char.ofNat 0

/-- The character breaks lines. -/
def isBreak (c : Char) : Bool :=
  c == '\n' || c == '\r' || c.toNat == 0x85 || c.toNat == 0x2028 || c.toNat == 0x2029

/-- The character breaks lines or ends the text. -/
def isBreakOrEnd (c : Char) : Bool :=
  isBreak c || c == endMark

/-- The character is a space, breaks lines or ends the text. -/
def isSpaceOrEnd (c : Char) : Bool :=
  c == ' ' || isBreakOrEnd c

/-- The character is a blank, breaks lines or ends the text. -/
def isBlankOrEnd (c : Char) : Bool :=
  c == '\t' || isSpaceOrEnd c

/-- The character may stand in the name of an anchor, a directive or a tag handle. -/
def isWordChar (c : Char) : Bool :=
  c.isAlphanum || c == '-' || c == '_'

/-- The character is a hexadecimal digit. -/
def isHexDigit (c : Char) : Bool :=
  c.isDigit || ('a' ≤ c && c ≤ 'f') || ('A' ≤ c && c ≤ 'F')

namespace Cursor

/-- The character so many places further, or the end mark. -/
def peek (cursor : Cursor) (n : Nat := 0) : Char :=
  cursor.rest[n]?.getD endMark

/-- The place after one character. A carriage return before a line feed does not end the line,
and a byte order mark takes no column.
-/
def next (cursor : Cursor) : Cursor :=
  match cursor.rest with
  | [] => cursor
  | c :: rest =>
      let ends := isBreak c && !(c == '\r' && rest.head? == some '\n')
      { rest
        index := cursor.index + 1
        line := if ends then cursor.line + 1 else cursor.line
        column :=
          if ends then 0
          else if c.toNat == 0xFEFF then cursor.column
          else cursor.column + 1 }

/-- The place so many characters further. -/
def forward (cursor : Cursor) : Nat → Cursor
  | 0 => cursor
  | n + 1 => cursor.next.forward n

/-- The longest stretch of characters that satisfy the test, and the place after it. -/
def span (cursor : Cursor) (p : Char → Bool) : List Char × Cursor :=
  let taken := cursor.rest.takeWhile p
  (taken, cursor.forward taken.length)

/-- The place after the characters that satisfy the test. -/
def skip (cursor : Cursor) (p : Char → Bool) : Cursor :=
  (cursor.span p).2

/-- The line break at a place as it counts in scalars, and the place after it. Only the Unicode
separators are kept, and where there is no break the text is empty.
-/
def lineBreak (cursor : Cursor) : List Char × Cursor :=
  match cursor.rest with
  | '\r' :: '\n' :: _ => (['\n'], cursor.forward 2)
  | c :: _ =>
      if !isBreak c then ([], cursor)
      else if c.toNat == 0x2028 || c.toNat == 0x2029 then ([c], cursor.next)
      else (['\n'], cursor.next)
  | [] => ([], cursor)

/-- The three characters stand at the place with a blank or the end after them. -/
def isMarker (cursor : Cursor) (c : Char) : Bool :=
  [c, c, c].isPrefixOf cursor.rest && isBlankOrEnd (cursor.peek 3)

/-- A separator of documents stands at the place. -/
def isSeparator (cursor : Cursor) : Bool :=
  cursor.isMarker '-' || cursor.isMarker '.'

/-- The place after the spaces and the comment up to the end of the line. -/
def skipComment (cursor : Cursor) : Cursor :=
  let cursor := cursor.skip (· == ' ')
  if cursor.peek == '#' then cursor.skip (!isBreakOrEnd ·) else cursor

end Cursor

end SqlShell.Yaml
