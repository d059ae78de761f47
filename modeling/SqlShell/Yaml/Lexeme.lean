import SqlShell.Yaml.Cursor
import SqlShell.Yaml.Problem
import SqlShell.Text.Utf8
import SqlShell.Url.Percent

/-!
The single lexemes of a document: scalars in their five styles, anchors, tags and directives.
-/

namespace SqlShell.Yaml

/-- Faulty unless the condition holds. -/
def require (condition : Bool) : Except Problem Unit :=
  if condition then .ok () else .error .malformed

/-- The name of an anchor or an alias after its indicator. -/
def anchorName (cursor : Cursor) : Except Problem (String × Cursor) := do
  let (name, cursor) := cursor.next.span isWordChar
  let c := cursor.peek
  require (!name.isEmpty && (isBlankOrEnd c || "?:,]\x7d%@\x60".toList.contains c))
  return (String.ofList name, cursor)

/-- The handle of a tag: an exclamation mark, alone or with a name and another one. -/
def tagHandle (cursor : Cursor) : Except Problem (String × Cursor) := do
  require (cursor.peek == '!')
  if cursor.peek 1 == ' ' then
    return ("!", cursor.next)
  let (name, after) := cursor.next.span isWordChar
  require (after.peek == '!')
  return (String.ofList ('!' :: name ++ ['!']), after.next)

/-- The character may stand in the address of a tag. -/
def isTagChar (c : Char) : Bool :=
  c.isAlphanum || "-;/?:@&=+$,_.!~*'()[]%".toList.contains c

/-- The escapes are complete and no two of them that follow each other make faulty text, given
the bytes of the escapes just before.
-/
def unescapeTag (pending : List UInt8) : List Char → Except Problem (List Char)
  | [] => (Utf8.decode pending).mapError fun _ => .malformed
  | '%' :: a :: b :: rest =>
      match Url.hexValue? a, Url.hexValue? b with
      | some high, some low => unescapeTag (pending ++ [UInt8.ofNat (high * 16 + low)]) rest
      | _, _ => .error .malformed
  | c :: rest => do
      require (c != '%')
      let before ← (Utf8.decode pending).mapError fun _ => Problem.malformed
      return before ++ c :: (← unescapeTag [] rest)

/-- The address of a tag. -/
def tagAddress (cursor : Cursor) : Except Problem (String × Cursor) := do
  let (address, cursor) := cursor.span isTagChar
  require (!address.isEmpty)
  return (String.ofList (← unescapeTag [] address), cursor)

/-- A tag as it is written: its handle, if it has one, and its address. -/
structure RawTag where
  handle : Option String
  address : String
  deriving DecidableEq, Repr

/-- A tag in angle brackets, alone, or with its handle. -/
def rawTag (cursor : Cursor) : Except Problem (RawTag × Cursor) := do
  let (tag, cursor) ←
    if cursor.peek 1 == '<' then do
      let (address, cursor) ← tagAddress (cursor.forward 2)
      require (cursor.peek == '>')
      pure (RawTag.mk none address, cursor.next)
    else if isBlankOrEnd (cursor.peek 1) then
      pure (RawTag.mk none "!", cursor.next)
    else do
      let word := cursor.next.rest.takeWhile (!isSpaceOrEnd ·)
      let (handle, cursor) ←
        if word.contains '!' then tagHandle cursor else pure ("!", cursor.next)
      let (address, cursor) ← tagAddress cursor
      pure (RawTag.mk (some handle) address, cursor)
  require (isSpaceOrEnd cursor.peek)
  return (tag, cursor)

/-- A directive: the version of the format, the meaning of a tag handle, or another one. -/
inductive Directive where
  | version (major : Int)
  | tag (handle address : String)
  | other
  deriving DecidableEq, Repr

/-- A whole number in digits. -/
def versionNumber (cursor : Cursor) : Except Problem (Int × Cursor) := do
  let (digits, cursor) := cursor.span Char.isDigit
  require (!digits.isEmpty)
  return (← (Number.readInt 10 digits).mapError (.intText 10 digits), cursor)

/-- The rest of a line that may hold a comment only. -/
def endOfLine (cursor : Cursor) : Except Problem Cursor := do
  let cursor := cursor.skipComment
  require (isBreakOrEnd cursor.peek)
  return cursor.lineBreak.2

/-- A directive up to the end of its line. -/
def directive (cursor : Cursor) : Except Problem (Directive × Cursor) := do
  let (name, cursor) := cursor.next.span isWordChar
  require (!name.isEmpty && isSpaceOrEnd cursor.peek)
  let (directive, cursor) ←
    if name == "YAML".toList then do
      let (major, cursor) ← versionNumber (cursor.skip (· == ' '))
      require (cursor.peek == '.')
      let (_, cursor) ← versionNumber cursor.next
      require (isSpaceOrEnd cursor.peek)
      pure (Directive.version major, cursor)
    else if name == "TAG".toList then do
      let (handle, cursor) ← tagHandle (cursor.skip (· == ' '))
      require (cursor.peek == ' ')
      let (address, cursor) ← tagAddress (cursor.skip (· == ' '))
      require (isSpaceOrEnd cursor.peek)
      pure (Directive.tag handle address, cursor)
    else
      pure (Directive.other, cursor.skip (!isBreakOrEnd ·))
  return (directive, ← endOfLine cursor)

/-- How the line breaks at the end of a block scalar are kept: all of them, none, or one. -/
inductive Chomping where
  | keep
  | strip
  | clip
  deriving DecidableEq, Repr

/-- The chomping that a character asks for. -/
def chompingOf? (c : Char) : Option Chomping :=
  if c == '+' then some .keep else if c == '-' then some .strip else none

/-- The indicators of a block scalar: its chomping and its indentation, in either order. -/
def blockIndicators (cursor : Cursor) : Except Problem ((Chomping × Option Nat) × Cursor) := do
  let first := chompingOf? cursor.peek
  let cursor := if first.isSome then cursor.next else cursor
  let digit := cursor.peek
  require (digit != '0')
  let increment := if digit.isDigit then some (digit.toNat - 48) else none
  let cursor := if increment.isSome then cursor.next else cursor
  let second := if first.isNone && increment.isSome then chompingOf? cursor.peek else none
  let cursor := if second.isSome then cursor.next else cursor
  require (isSpaceOrEnd cursor.peek)
  return (((first.or second).getD .clip, increment), cursor)

/-- The breaks of the empty lines at the start of a block scalar, the widest indentation among
them and their successor, and the place after them.
-/
def leadingBreaks : Nat → List Char → Nat → Cursor → List Char × Nat × Cursor
  | 0, breaks, widest, cursor => (breaks, widest, cursor)
  | fuel + 1, breaks, widest, cursor =>
      if cursor.peek == ' ' then
        leadingBreaks fuel breaks (max widest cursor.next.column) cursor.next
      else if isBreak cursor.peek then
        let (text, cursor) := cursor.lineBreak
        leadingBreaks fuel (breaks ++ text) widest cursor
      else
        (breaks, widest, cursor)

/-- The place after the spaces up to a column. -/
def skipIndent (indent : Nat) (cursor : Cursor) : Cursor :=
  cursor.forward (min (indent - cursor.column) (cursor.rest.takeWhile (· == ' ')).length)

/-- The breaks of empty lines before a line of a block scalar with the given indentation, and
the place where that line starts.
-/
def innerBreaks (indent : Nat) : Nat → List Char → Cursor → List Char × Cursor
  | 0, breaks, cursor => (breaks, cursor)
  | fuel + 1, breaks, cursor =>
      let cursor := skipIndent indent cursor
      if isBreak cursor.peek then
        let (text, cursor) := cursor.lineBreak
        innerBreaks indent fuel (breaks ++ text) cursor
      else
        (breaks, cursor)

/-- The content of a block scalar from the start of a line on: the text of the lines, the break
after the last of them, and the breaks of the empty lines that follow. What has been read is
kept backwards.
-/
def blockLines (folded : Bool) (indent : Nat)
    : Nat → List Char → List Char → Cursor → (List Char × List Char × List Char) × Cursor
  | 0, read, breaks, cursor => ((read.reverse, [], breaks), cursor)
  | fuel + 1, read, breaks, cursor =>
      if cursor.column != indent || cursor.peek == endMark then
        ((read.reverse, [], breaks), cursor)
      else
        let flush := cursor.peek != ' ' && cursor.peek != '\t'
        let (line, cursor) := cursor.span (!isBreakOrEnd ·)
        let (lineEnd, cursor) := cursor.lineBreak
        let read := line.reverseAux (breaks.reverseAux read)
        let (breaks, cursor) := innerBreaks indent fuel [] cursor
        if cursor.column == indent && cursor.peek != endMark then
          let joined :=
            if folded && lineEnd == ['\n'] && flush && cursor.peek != ' '
                && cursor.peek != '\t' then
              if breaks.isEmpty then [' '] else []
            else
              lineEnd
          blockLines folded indent fuel (joined.reverseAux read) breaks cursor
        else
          ((read.reverse, lineEnd, breaks), cursor)

/-- A block scalar, folded or literal, below the given indentation. -/
def blockScalar (folded : Bool) (parent : Int) (cursor : Cursor)
    : Except Problem (List Char × Cursor) := do
  let ((chomping, increment), cursor) ← blockIndicators cursor.next
  let cursor ← endOfLine cursor
  let least := (max (parent + 1) 1).toNat
  let fuel := cursor.rest.length + 1
  let (indent, breaks, cursor) :=
    match increment with
    | none =>
        let (breaks, widest, cursor) := leadingBreaks fuel [] 0 cursor
        (max least widest, breaks, cursor)
    | some increment =>
        let indent := least + increment - 1
        let (breaks, cursor) := innerBreaks indent fuel [] cursor
        (indent, breaks, cursor)
  let ((text, lineEnd, breaks), cursor) := blockLines folded indent fuel [] breaks cursor
  let text := if chomping = .strip then text else text ++ lineEnd
  return (if chomping = .keep then text ++ breaks else text, cursor)

/-- The character that a letter after a backslash stands for. -/
def escapedChar? (c : Char) : Option Char :=
  let code? : Option Nat := match c with
    | '0' => some 0x00
    | 'a' => some 0x07
    | 'b' => some 0x08
    | 't' => some 0x09
    | '\t' => some 0x09
    | 'n' => some 0x0A
    | 'v' => some 0x0B
    | 'f' => some 0x0C
    | 'r' => some 0x0D
    | 'e' => some 0x1B
    | ' ' => some 0x20
    | '"' => some 0x22
    | '\\' => some 0x5C
    | '/' => some 0x2F
    | 'N' => some 0x85
    | '_' => some 0xA0
    | 'L' => some 0x2028
    | 'P' => some 0x2029
    | _ => none
  code?.map Char.ofNat

/-- The number of hexadecimal digits after a letter that announces a code point. -/
def codeLength? (c : Char) : Option Nat :=
  if c == 'x' then some 2 else if c == 'u' then some 4 else if c == 'U' then some 8 else none

/-- The character with a code point; a code point that is no character is replaced. -/
def charOfCode (code : Nat) : Char :=
  if code.isValidChar then Char.ofNat code else '\uFFFD'

/-- The breaks of the empty lines inside a quoted scalar, and the place after them and the
blanks that follow. A separator of documents may not stand there.
-/
def quotedBreaks : Nat → List Char → Cursor → Except Problem (List Char × Cursor)
  | 0, breaks, cursor => .ok (breaks, cursor)
  | fuel + 1, breaks, cursor => do
      require (!cursor.isSeparator)
      let cursor := cursor.skip fun c => c == ' ' || c == '\t'
      if isBreak cursor.peek then
        let (text, cursor) := cursor.lineBreak
        quotedBreaks fuel (breaks ++ text) cursor
      else
        return (breaks, cursor)

/-- The code point that an escape names by its digits, and the place after it, if the letter at
the place announces digits.
-/
def codeEscape? (cursor : Cursor) : Option (Nat × Cursor) :=
  match codeLength? cursor.peek with
  | none => none
  | some length =>
      let digits := cursor.next.rest.take length
      if digits.length == length && digits.all isHexDigit then
        some (digits.foldl (fun n c => n * 16 + (Url.hexValue? c).getD 0) 0,
          cursor.forward (length + 1))
      else
        none

/-- The character of two code points that are the halves of a pair. -/
def joinedHalves? (high low : Nat) : Option Char :=
  if 0xD800 ≤ high && high < 0xDC00 && 0xDC00 ≤ low && low < 0xE000 then
    some (Char.ofNat (0x10000 + (high - 0xD800) * 0x400 + (low - 0xDC00)))
  else
    none

/-- The text that an escape in double quotes stands for, and the place after it. Two escapes
that are the halves of a pair stand for one character.
-/
def quotedEscape (cursor : Cursor) : Except Problem (List Char × Cursor) :=
  match escapedChar? (cursor.peek 1), codeEscape? cursor.next with
  | some c, _ => .ok ([c], cursor.forward 2)
  | none, none => .error .malformed
  | none, some (code, after) =>
      if 0x10FFFF < code then .error (.characterCode code)
      else
        let next? := if after.peek == '\\' then codeEscape? after.next else none
        match next? with
        | some (low, afterLow) =>
            match joinedHalves? code low with
            | some c => .ok ([c], afterLow)
            | none => .ok ([charOfCode code], after)
        | none => .ok ([charOfCode code], after)

/-- The line break of a folded line: a single one becomes a space, and one before empty lines
is left out.
-/
def foldedBreak (lineEnd breaks : List Char) : List Char :=
  if lineEnd != ['\n'] then lineEnd ++ breaks
  else if breaks.isEmpty then [' ']
  else breaks

/-- The blanks inside a quoted scalar: on one line they stay, and around line breaks the lines
are folded.
-/
def quotedBlanks (fuel : Nat) (cursor : Cursor) : Except Problem (List Char × Cursor) := do
  let (blanks, cursor) := cursor.span fun c => c == ' ' || c == '\t'
  require (cursor.peek != endMark)
  if isBreak cursor.peek then
    let (lineEnd, cursor) := cursor.lineBreak
    let (breaks, cursor) ← quotedBreaks fuel [] cursor
    return (foldedBreak lineEnd breaks, cursor)
  else
    return (blanks, cursor)

/-- The text of a quoted scalar up to its closing quote. What has been read of it is kept
backwards.
-/
def quotedRest (quote : Char) : Nat → List Char → Cursor → Except Problem (List Char × Cursor)
  | 0, _, _ => .error .malformed
  | fuel + 1, read, cursor =>
      let c := cursor.peek
      if quote == '\'' && c == '\'' && cursor.peek 1 == '\'' then
        quotedRest quote fuel ('\'' :: read) (cursor.forward 2)
      else if c == quote then
        .ok (read.reverse, cursor.next)
      else if quote == '"' && c == '\\' && isBreak (cursor.peek 1) then do
        let (_, cursor) := cursor.next.lineBreak
        let (breaks, cursor) ← quotedBreaks fuel [] cursor
        quotedRest quote fuel (breaks.reverseAux read) cursor
      else if quote == '"' && c == '\\' then do
        let (escaped, cursor) ← quotedEscape cursor
        quotedRest quote fuel (escaped.reverseAux read) cursor
      else if isBlankOrEnd c then do
        let (blanks, cursor) ← quotedBlanks fuel cursor
        quotedRest quote fuel (blanks.reverseAux read) cursor
      else
        let (plain, cursor) :=
          cursor.span fun c => !isBlankOrEnd c && c != '\'' && c != '"' && c != '\\'
        if plain.isEmpty then quotedRest quote fuel (c :: read) cursor.next
        else quotedRest quote fuel (plain.reverseAux read) cursor

/-- A scalar in single or double quotes. -/
def quotedScalar (cursor : Cursor) : Except Problem (List Char × Cursor) :=
  quotedRest cursor.peek (cursor.rest.length + 1) [] cursor.next

/-- Whether a plain scalar ends before the characters 'c' and 'd'. In a flow collection its
indicators end it too.
-/
def endsPlain (flow : Bool) (c d : Char) : Bool :=
  isBlankOrEnd c
    || (c == ':' && (isBlankOrEnd d || (flow && ",[]\x7b\x7d".toList.contains d)))
    || (flow && ",?[]\x7b\x7d".toList.contains c)

/-- The characters of a plain scalar up to its next blank or its end. -/
def plainWord (flow : Bool) : List Char → List Char
  | [] => []
  | c :: rest =>
      if endsPlain flow c (rest.head?.getD endMark) then [] else c :: plainWord flow rest

/-- The breaks of empty lines inside a plain scalar, and the place after them and the spaces
that follow; nothing if a separator of documents ends it.
-/
def plainBreaks : Nat → List Char → Cursor → Option (List Char) × Cursor
  | 0, breaks, cursor => (some breaks, cursor)
  | fuel + 1, breaks, cursor =>
      if cursor.peek == ' ' then
        plainBreaks fuel breaks cursor.next
      else if isBreak cursor.peek then
        let (text, cursor) := cursor.lineBreak
        if cursor.isSeparator then (none, cursor) else plainBreaks fuel (breaks ++ text) cursor
      else
        (some breaks, cursor)

/-- The blanks after a word of a plain scalar, the place after them, and whether a line ended
there. No blanks mean that the scalar ends.
-/
def plainBlanks (fuel : Nat) (cursor : Cursor) : List Char × Cursor × Bool :=
  let (blanks, cursor) := cursor.span (· == ' ')
  if isBreak cursor.peek then
    let (lineEnd, cursor) := cursor.lineBreak
    if cursor.isSeparator then
      ([], cursor, true)
    else
      match plainBreaks fuel [] cursor with
      | (none, cursor) => ([], cursor, true)
      | (some breaks, cursor) => (foldedBreak lineEnd breaks, cursor, true)
  else
    (blanks, cursor, false)

/-- A plain scalar with what may follow it: its text, the place after it, and whether a line
ended after its last word. What has been read of it is kept backwards.
-/
def plainRest (flow : Bool) (indent : Int)
    : Nat → List Char → List Char → Bool → Cursor → List Char × Cursor × Bool
  | 0, read, _, ended, cursor => (read.reverse, cursor, ended)
  | fuel + 1, read, blanks, ended, cursor =>
      let word := if cursor.peek == '#' then [] else plainWord flow cursor.rest
      if word.isEmpty then
        (read.reverse, cursor, ended)
      else
        let read := word.reverseAux (blanks.reverseAux read)
        let (blanks, cursor, ended) := plainBlanks fuel (cursor.forward word.length)
        if blanks.isEmpty || cursor.peek == '#' || (!flow && (cursor.column : Int) < indent) then
          (read.reverse, cursor, ended)
        else
          plainRest flow indent fuel read blanks ended cursor

/-- A plain scalar below the given indentation. -/
def plainScalar (flow : Bool) (parent : Int) (cursor : Cursor) : List Char × Cursor × Bool :=
  plainRest flow (parent + 1) (cursor.rest.length + 1) [] [] false cursor

end SqlShell.Yaml
