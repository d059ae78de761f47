import SqlShell.Yaml.Lexeme

/-!
The tokens of a document. Where collections without brackets start and end is told by the
indentation, and a key is only known as one when the colon after it is reached; its token is then
put in before it.
-/

namespace SqlShell.Yaml

/-- A token of a document. -/
inductive Token where
  | directive (directive : Directive)
  | documentStart
  | documentEnd
  | blockSequence
  | blockMapping
  | blockEnd
  | flowSequence
  | flowSequenceEnd
  | flowMapping
  | flowMappingEnd
  | entry
  | flowEntry
  | key
  | value
  | alias (name : String)
  | anchor (name : String)
  | tag (tag : RawTag)
  | scalar (plain : Bool) (text : List Char)
  | streamEnd
  deriving DecidableEq, Repr

/-- A token that may turn out to be a key: its number, whether the indentation demands that it
is one, and its place.
-/
structure KeyCandidate where
  token : Nat
  required : Bool
  index : Nat
  line : Nat
  column : Nat

/-- Reading under way: the place, the tokens so far, the columns of the open collections without
brackets, the key candidates of the open levels of brackets, the innermost first, and whether a
key may start here.
-/
structure Reading where
  cursor : Cursor
  tokens : Array Token := #[]
  indent : Int := -1
  outer : List Int := []
  candidate : Option KeyCandidate := none
  outerCandidates : List (Option KeyCandidate) := []
  keyAllowed : Bool := true

namespace Reading

/-- The place lies inside brackets. -/
def inFlow (reading : Reading) : Bool :=
  !reading.outerCandidates.isEmpty

/-- The reading with one more token. -/
def push (reading : Reading) (token : Token) : Reading :=
  { reading with tokens := reading.tokens.push token }

/-- A key candidate may only reach to the end of its line and no further than 1024
characters.
-/
def isStale (cursor : Cursor) (candidate : KeyCandidate) : Bool :=
  candidate.line != cursor.line || candidate.index + 1024 < cursor.index

/-- Drops a candidate that is out of reach; one that has to be a key may not be dropped. -/
def dropStale (cursor : Cursor) : Option KeyCandidate → Except Problem (Option KeyCandidate)
  | none => .ok none
  | some candidate =>
      if !isStale cursor candidate then .ok (some candidate)
      else if candidate.required then .error .malformed
      else .ok none

/-- Drops the candidates of all levels that are out of reach. -/
def dropStaleKeys (reading : Reading) : Except Problem Reading := do
  let candidate ← dropStale reading.cursor reading.candidate
  let outerCandidates ← reading.outerCandidates.mapM (dropStale reading.cursor)
  return { reading with candidate, outerCandidates }

/-- Drops the candidate of the innermost level; one that has to be a key may not be dropped. -/
def dropKey (reading : Reading) : Except Problem Reading := do
  require (!reading.candidate.any (·.required))
  return { reading with candidate := none }

/-- Notes that the next token may be a key. -/
def noteKey (reading : Reading) : Except Problem Reading := do
  if !reading.keyAllowed then
    return reading
  let reading ← reading.dropKey
  let cursor := reading.cursor
  let required := !reading.inFlow && reading.indent == cursor.column
  let candidate :=
    ⟨reading.tokens.size, required, cursor.index, cursor.line, cursor.column⟩
  return { reading with candidate := some candidate }

/-- Ends the collections without brackets that are indented deeper than a column. -/
def unwindFrom (column : Int) : Int → List Int → Array Token → Int × List Int × Array Token
  | indent, [], tokens => (indent, [], tokens)
  | indent, next :: outer, tokens =>
      if column < indent then unwindFrom column next outer (tokens.push .blockEnd)
      else (indent, next :: outer, tokens)

/-- Ends the collections that are indented deeper than a column, unless inside brackets. -/
def unwind (reading : Reading) (column : Int) : Reading :=
  if reading.inFlow then
    reading
  else
    let (indent, outer, tokens) := unwindFrom column reading.indent reading.outer reading.tokens
    { reading with indent, outer, tokens }

/-- Opens a collection at a column with its token put in before the given number, unless one
with that indentation is open.
-/
def openAt (reading : Reading) (column : Nat) (number : Nat) (token : Token) : Reading :=
  if reading.indent < column then
    { reading with
      indent := column
      outer := reading.indent :: reading.outer
      tokens := reading.tokens.extract 0 number ++ #[token]
        ++ reading.tokens.extract number reading.tokens.size }
  else
    reading

/-- The reading after so many characters. -/
def forward (reading : Reading) (n : Nat) : Reading :=
  { reading with cursor := reading.cursor.forward n }

/-- The reading with the permission to start a key set. -/
def allowKey (reading : Reading) (allowed : Bool) : Reading :=
  { reading with keyAllowed := allowed }

/-- The reading after spaces, comments and line breaks; a line break outside brackets lets a key
start.
-/
def skipBlanks : Nat → Reading → Reading
  | 0, reading => reading
  | fuel + 1, reading =>
      let cursor := reading.cursor.skipComment
      if isBreak cursor.peek then
        skipBlanks fuel
          { reading with
            cursor := cursor.lineBreak.2
            keyAllowed := reading.keyAllowed || !reading.inFlow }
      else
        { reading with cursor }

/-- Reads the end of the stream or a line that belongs to no document's content. -/
def endContent (reading : Reading) : Except Problem Reading := do
  return (← (reading.unwind (-1)).dropKey).allowKey false

/-- Reads the start of a collection in brackets. -/
def openFlow (reading : Reading) (token : Token) : Except Problem Reading := do
  let reading ← reading.noteKey
  return { (reading.forward 1).push token with
    candidate := none
    outerCandidates := reading.candidate :: reading.outerCandidates
    keyAllowed := true }

/-- Reads the end of a collection in brackets. -/
def closeFlow (reading : Reading) (token : Token) : Except Problem Reading := do
  let reading ← reading.dropKey
  match reading.outerCandidates with
  | [] => .error .malformed
  | candidate :: outerCandidates =>
      return { (reading.forward 1).push token with
        candidate, outerCandidates, keyAllowed := false }

/-- Reads a dash before an entry of a sequence. -/
def readEntry (reading : Reading) : Except Problem Reading := do
  require (reading.inFlow || reading.keyAllowed)
  let reading :=
    if reading.inFlow then reading
    else reading.openAt reading.cursor.column reading.tokens.size .blockSequence
  let reading ← (reading.allowKey true).dropKey
  return (reading.forward 1).push .entry

/-- Reads a question mark before a key. -/
def readKey (reading : Reading) : Except Problem Reading := do
  require (reading.inFlow || reading.keyAllowed)
  let reading :=
    if reading.inFlow then reading
    else reading.openAt reading.cursor.column reading.tokens.size .blockMapping
  let reading ← (reading.allowKey (!reading.inFlow)).dropKey
  return (reading.forward 1).push .key

/-- Reads a colon. If there is a key candidate it is a key, and may start a mapping. -/
def readValue (reading : Reading) : Except Problem Reading := do
  match reading.candidate with
  | some candidate =>
      let tokens := reading.tokens.extract 0 candidate.token ++ #[.key]
        ++ reading.tokens.extract candidate.token reading.tokens.size
      let reading := { reading with tokens, candidate := none, keyAllowed := false }
      let reading :=
        if reading.inFlow then reading
        else reading.openAt candidate.column candidate.token .blockMapping
      return (reading.forward 1).push .value
  | none =>
      require (reading.inFlow || reading.keyAllowed)
      let reading :=
        if reading.inFlow then reading
        else reading.openAt reading.cursor.column reading.tokens.size .blockMapping
      let reading ← (reading.allowKey (!reading.inFlow)).dropKey
      return (reading.forward 1).push .value

/-- The reading at a place with one more token. -/
def pushAt (reading : Reading) (cursor : Cursor) (token : Token) : Reading :=
  { reading with cursor, tokens := reading.tokens.push token }

/-- Reads an anchor, an alias, a tag or a quoted scalar, each of which may start a key. -/
def readNodePart (reading : Reading) (read : Cursor → Except Problem (Token × Cursor))
    : Except Problem Reading := do
  let reading ← reading.noteKey
  let (token, cursor) ← read reading.cursor
  return (reading.pushAt cursor token).allowKey false

/-- Reads a plain scalar, which may start a key; a key may follow if a line ended in it. -/
def readPlain (reading : Reading) : Except Problem Reading := do
  let reading ← reading.noteKey
  let (text, cursor, ended) := plainScalar reading.inFlow reading.indent reading.cursor
  return (reading.pushAt cursor (.scalar true text)).allowKey ended

/-- Reads a block scalar, after which a key may follow. -/
def readBlock (reading : Reading) (folded : Bool) : Except Problem Reading := do
  let reading ← (reading.allowKey true).dropKey
  let (text, cursor) ← blockScalar folded reading.indent reading.cursor
  return reading.pushAt cursor (.scalar false text)

/-- A plain scalar may start with the characters `c` and `d`. -/
def startsPlain (flow : Bool) (c d : Char) : Bool :=
  let indicators := "-?:,[]\x7b\x7d#&*!|>'\"%@\x60".toList
  (!isBlankOrEnd c && !indicators.contains c)
    || (!isBlankOrEnd d && (c == '-' || (!flow && (c == '?' || c == ':'))))

/-- Reads the next token where no document's content ends. -/
def readContent (reading : Reading) : Except Problem Reading :=
  let cursor := reading.cursor
  let c := cursor.peek
  let d := cursor.peek 1
  let flow := reading.inFlow
  if c == '[' then reading.openFlow .flowSequence
  else if c == '{' then reading.openFlow .flowMapping
  else if c == ']' then reading.closeFlow .flowSequenceEnd
  else if c == '}' then reading.closeFlow .flowMappingEnd
  else if c == ',' then do
    return ((← (reading.allowKey true).dropKey).forward 1).push .flowEntry
  else if c == '-' && isBlankOrEnd d then reading.readEntry
  else if c == '?' && (flow || isBlankOrEnd d) then reading.readKey
  else if c == ':' && (flow || isBlankOrEnd d) then reading.readValue
  else if c == '*' then
    reading.readNodePart fun cursor => do
      let (name, cursor) ← anchorName cursor
      return (.alias name, cursor)
  else if c == '&' then
    reading.readNodePart fun cursor => do
      let (name, cursor) ← anchorName cursor
      return (.anchor name, cursor)
  else if c == '!' then
    reading.readNodePart fun cursor => do
      let (tag, cursor) ← rawTag cursor
      return (.tag tag, cursor)
  else if !flow && (c == '|' || c == '>') then reading.readBlock (c == '>')
  else if c == '\'' || c == '"' then
    reading.readNodePart fun cursor => do
      let (text, cursor) ← quotedScalar cursor
      return (.scalar false text, cursor)
  else if startsPlain flow c d then reading.readPlain
  else .error .malformed

/-- Reads the next token. -/
def readToken (reading : Reading) : Except Problem Reading := do
  let reading ← reading.dropStaleKeys
  let reading := reading.unwind reading.cursor.column
  let cursor := reading.cursor
  let starts := cursor.column == 0
  if cursor.peek == endMark then
    return (← reading.endContent).push .streamEnd
  else if starts && cursor.peek == '%' then
    let reading ← reading.endContent
    let (directive, cursor) ← directive cursor
    return reading.pushAt cursor (.directive directive)
  else if starts && cursor.isMarker '-' then
    return ((← reading.endContent).forward 3).push .documentStart
  else if starts && cursor.isMarker '.' then
    return ((← reading.endContent).forward 3).push .documentEnd
  else
    reading.readContent

/-- The tokens that are settled: those before the first candidate for a key that is still in
reach.
-/
def settled (reading : Reading) : Array Token :=
  let pending := (reading.candidate :: reading.outerCandidates).filterMap id
  match ((pending.filter (!isStale reading.cursor ·)).map (·.token)).min? with
  | some number => reading.tokens.extract 0 number
  | none => reading.tokens

/-- Reads tokens up to the end of the stream or the first problem, before which only the settled
ones are told.
-/
def readAll : Nat → Reading → Array Token × Option Problem
  | 0, reading => (reading.tokens, some .malformed)
  | fuel + 1, reading =>
      match (skipBlanks (reading.cursor.rest.length + 1) reading).readToken with
      | .error problem => (reading.settled, some problem)
      | .ok next =>
          if next.tokens.back? == some .streamEnd then (next.tokens, none)
          else readAll fuel next

end Reading

/-- The characters that a document may hold. -/
def isAllowed (c : Char) : Bool :=
  let n := c.toNat
  n == 0x09 || n == 0x0A || n == 0x0D || (0x20 ≤ n && n ≤ 0x7E) || n == 0x85
    || (0xA0 ≤ n && n ≤ 0xD7FF) || (0xE000 ≤ n && n ≤ 0xFFFD) || 0x10000 ≤ n

/-- The tokens of a text and the problem that ends them early, if there is one. A byte order
mark at the start is passed over.
-/
def tokensOf (text : List Char) : Array Token × Option Problem :=
  if !text.all isAllowed then
    (#[], some .malformed)
  else
    let cursor : Cursor := { rest := text }
    let cursor := if cursor.peek.toNat == 0xFEFF then cursor.next else cursor
    Reading.readAll (text.length + 2) { cursor }

end SqlShell.Yaml
