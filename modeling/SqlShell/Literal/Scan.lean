import SqlShell.Literal.Number
import SqlShell.Text.Lines
import SqlShell.Text.Printable

/-!
Cutting a text into tokens. Within parentheses line feeds and indentation do not count, and a
backslash at the end of a line joins it to the next one; outside of them the indentation of each
line is compared with that of the lines before.
-/

namespace SqlShell.Literal

open SqlShell.Text (asciiEnd continuesName startsName)

/-- How far a line is indented, once with wide stops of tabulators and once with narrow ones. -/
structure Indent where
  wide : Nat := 0
  narrow : Nat := 0
  deriving DecidableEq, Repr

/-- A text that has been cut in part: what is left of it, its line, the open parentheses with their
lines and the indentations in force, both from the innermost on, the changes of indentation that
are still to be told, and whether a line starts here or has no tokens.
-/
structure Scanner where
  rest : List Char
  line : Nat := 1
  opened : List (Char × Nat) := []
  indents : List Indent := []
  pending : List TokenKind := []
  isLineStart : Bool := true
  isBlank : Bool := false
  deriving Repr

namespace Scanner

/-- The end of the tokens at an early end of the text. Where the text itself ends early, a
parenthesis that is still open is what it lacks.
-/
def early (scanner : Scanner) (flaw : EndFlaw) : Ending :=
  match flaw, scanner.opened with
  | .unexpectedEnd, (opening, _) :: _ => .early (.unclosed opening) scanner.opened.head?
  | _, _ => .early flaw scanner.opened.head?

/-- The places between wide stops of a tabulator. -/
def wideStop : Nat := 8

/-- The greatest number of indentations within each other. -/
def deepestIndent : Nat := 99

/-- Passes over the blanks at the start of a line. A backslash there joins the next line; then the
first indentation counts that is not zero, given as `joined`.
-/
def passIndent (scanner : Scanner) (indent : Indent) (joined : Nat) :
    List Char → Except EndFlaw (Indent × Scanner)
  | '\\' :: '\n' :: rest =>
      if rest.isEmpty then .error .unexpectedEnd
      else
        passIndent { scanner with line := scanner.line + 1 } indent
          (if joined = 0 then indent.wide else joined) rest
  | '\\' :: _ => .error .strayBackslash
  | c :: rest =>
      if c == ' ' then passIndent scanner ⟨indent.wide + 1, indent.narrow + 1⟩ joined rest
      else if c == '\t' then
        passIndent scanner ⟨(indent.wide / wideStop + 1) * wideStop, indent.narrow + 1⟩ joined rest
      else if c == '\x0c' then passIndent scanner {} joined rest
      else .ok (reached indent joined, { scanner with rest := c :: rest })
  | [] => .ok (reached indent joined, { scanner with rest := [] })
where
  reached (indent : Indent) (joined : Nat) : Indent :=
    if joined = 0 then indent else ⟨joined, joined⟩

/-- Compares the indentation of a line with those in force. -/
def setIndent (scanner : Scanner) (indent : Indent) : Except EndFlaw Scanner :=
  let current := scanner.indents.headD {}
  if indent.wide = current.wide then
    if indent.narrow = current.narrow then .ok scanner else .error .mixedIndent
  else if current.wide < indent.wide then
    if deepestIndent ≤ scanner.indents.length then .error .deepIndent
    else if indent.narrow ≤ current.narrow then .error .mixedIndent
    else .ok { scanner with indents := indent :: scanner.indents, pending := [.indent] }
  else
    let kept := scanner.indents.dropWhile (indent.wide < ·.wide)
    let current := kept.headD {}
    if indent.wide ≠ current.wide then .error .unevenIndent
    else if indent.narrow ≠ current.narrow then .error .mixedIndent
    else
      let count := scanner.indents.length - kept.length
      .ok { scanner with indents := kept, pending := List.replicate count .dedent }

/-- Begins a line; one with nothing but a comment does not count. -/
def beginLine (scanner : Scanner) : Except EndFlaw Scanner := do
  let (indent, scanner) ← passIndent scanner {} 0 scanner.rest
  let scanner := { scanner with isLineStart := false }
  if scanner.rest.head?.any fun c => c == '#' || c == '\n' then
    return { scanner with isBlank := true }
  else if scanner.opened.isEmpty then
    setIndent scanner indent
  else
    return scanner

/-- The scanner after some text, which may go over several lines. -/
def after (scanner : Scanner) (rest : List Char) : Scanner :=
  let passed := scanner.rest.take (scanner.rest.length - rest.length)
  { scanner with rest, line := scanner.line + passed.count '\n' }

/-- The token that reaches from here up to the rest of the text, and the scanner after it. -/
def take (scanner : Scanner) (kind : TokenKind) (rest : List Char) : Token × Scanner :=
  ({ kind, text := scanner.rest.take (scanner.rest.length - rest.length), line := scanner.line,
     level := scanner.opened.length }, scanner.after rest)

/-- The characters of a name from here on, of which all have to be ones for names. -/
def takeName (scanner : Scanner) : Except ScanFlaw (Token × Scanner) :=
  let name := scanner.rest.takeWhile goesOnInWord
  let isGood := match name with
    | [] => true
    | c :: more => startsName c && more.all continuesName
  if isGood then
    let kind := if keywords.contains (String.ofList name) then .keyword else .name
    .ok (scanner.take kind (scanner.rest.dropWhile goesOnInWord))
  else
    let wrong :=
      if name.head?.any (!startsName ·) then name.head? else name.find? (!continuesName ·)
    let c := wrong.getD ' '
    .error (if Text.isPrintable c then .foreign c else .unprintable c)

/-- Passes over quoted text up to the quotes that end it, of which some have just been found. -/
def passQuoted (quote : Char) (size : Nat) : Nat → List Char → Option (List Char)
  | _, [] => none
  | found, c :: rest =>
      if c == quote then
        if found + 1 = size then some rest else passQuoted quote size (found + 1) rest
      else if c == '\n' && size = 1 then none
      else if c == '\\' then
        match rest with
        | [] => none
        | _ :: rest => passQuoted quote size 0 rest
      else
        passQuoted quote size 0 rest

/-- The number of line feeds in text in single quotes that has no end, up to the one that ends it.
-/
def lineFeedsPassed : List Char → Nat
  | '\\' :: '\n' :: rest => lineFeedsPassed rest + 1
  | '\\' :: _ :: rest => lineFeedsPassed rest
  | '\n' :: _ => 0
  | _ :: rest => lineFeedsPassed rest
  | [] => 0

/-- The quoted text from here on, whose quotes stand after some letters. -/
def takeQuoted (scanner : Scanner) (letters : Nat) : Except ScanFlaw (Token × Scanner) :=
  match scanner.rest.drop letters with
  | quote :: text =>
      match text with
      | second :: third :: rest =>
          if second == quote && third == quote then
            match passQuoted quote 3 0 rest with
            | some rest => .ok (scanner.take .quoted rest)
            | none => .error (.unterminatedBlock (scanner.line + rest.count '\n'))
          else single quote text
      | _ => single quote text
  | [] => .ok (scanner.take .quoted [])
where
  single (quote : Char) (text : List Char) : Except ScanFlaw (Token × Scanner) :=
    match passQuoted quote 1 0 text with
    | some rest => .ok (scanner.take .quoted rest)
    | none => .error (.unterminated (scanner.line + lineFeedsPassed text))

/-- The letters that may stand before quotes, in lower case. -/
def quoteLetters : List String := ["b", "r", "u", "f", "br", "rb", "fr", "rf"]

/-- How many letters stand before quotes at the start of a text, if both do. -/
def lettersBeforeQuote? (text : List Char) : Option Nat :=
  [0, 1, 2].find? fun count =>
    let letters := String.ofList ((text.take count).map Char.toLower)
    (count = 0 || quoteLetters.contains letters)
      && (text.drop count).head?.any fun c => c == '"' || c == '\''

/-- The signs of more than one character, the longer ones first. -/
def longSigns : List String := [
  "**=", "...", "//=", "<<=", ">>=", "!=", "%=", "&=", "**", "*=", "+=", "-=", "->", "//",
  "/=", ":=", "<<", "<=", "<>", "==", ">=", ">>", "@=", "^=", "|="
]

/-- The parenthesis that opens what another one closes. -/
def opening? : Char → Option Char
  | ')' => some '('
  | ']' => some '['
  | '}' => some '{'
  | _ => none

/-- The greatest number of parentheses within each other. -/
def deepest : Nat := 200

/-- The sign from here on. Parentheses have to match each other. -/
def takeSign (scanner : Scanner) : Except ScanFlaw (Token × Scanner) :=
  match longSigns.find? (·.toList.isPrefixOf scanner.rest) with
  | some sign => .ok (scanner.take .sign (scanner.rest.drop sign.length))
  | none =>
      match scanner.rest with
      | [] => .ok (scanner.take .sign [])
      | c :: rest =>
          if c == '(' || c == '[' || c == '{' then
            if deepest ≤ scanner.opened.length then .error .tooDeep
            else
              let opened := (c, scanner.line) :: scanner.opened
              .ok ({ scanner with opened }.take .sign rest)
          else
            match opening? c with
            | some opening =>
                match scanner.opened with
                | [] => .error (.unmatched c)
                | (found, line) :: opened =>
                    if found == opening then .ok ({ scanner with opened }.take .sign rest)
                    else
                      .error (.mismatched c found
                        (if line = scanner.line then none else some line))
            | none =>
                if Text.isPrintable c then .ok (scanner.take .sign rest)
                else .error (.unprintable c)

/-- The next token of a text, and the scanner after it. Each step passes over a character, so there
are no more steps than characters.
-/
def next (scanner : Scanner) : Nat → Except Ending (Token × Scanner)
  | 0 => .ok (scanner.take .finish [])
  | steps + 1 => do
      let scanner ←
        if scanner.isLineStart then
          match scanner.beginLine with
          | .ok scanner => pure scanner
          | .error flaw => .error (scanner.early flaw)
        else
          pure scanner
      match scanner.pending with
      | kind :: pending => return ({ scanner with pending }.take kind scanner.rest)
      | [] =>
          let blankless :=
            scanner.rest.dropWhile fun c => c == ' ' || c == '\t' || c == '\x0c'
          let rest :=
            if blankless.head? == some '#' then blankless.dropWhile (· != '\n') else blankless
          let scanner := { scanner with rest }
          match rest with
          | [] =>
              match scanner.opened with
              | [] => return scanner.take .finish []
              | (opening, _) :: _ => .error (scanner.early (.unclosed opening))
          | '\n' :: more =>
              let following :=
                { scanner with
                  rest := more, line := scanner.line + 1, isLineStart := true, isBlank := false }
              if scanner.isBlank || !scanner.opened.isEmpty then following.next steps
              else return ((scanner.take .newline more).1, following)
          | '\\' :: '\n' :: more =>
              if more.isEmpty then .error (scanner.early .unexpectedEnd)
              else next { scanner with rest := more, line := scanner.line + 1 } steps
          | '\\' :: _ => .error (scanner.early .strayBackslash)
          | c :: more => Except.mapError .flawed <|
              match lettersBeforeQuote? rest with
              | some letters => scanner.takeQuoted letters
              | none =>
                  if asciiEnd ≤ c.toNat || startsName c then scanner.takeName
                  else if c.isDigit || (c == '.' && more.head?.any Char.isDigit) then
                    (passNumber rest).map (scanner.take .number)
                  else scanner.takeSign

/-- The number of characters of the longest signs. -/
def longestSign : Nat := 3

/-- Nothing needs to be seen after this token: it is one of the longest signs, or quoted text. Empty
text in single quotes could have been the start of text in triple quotes.
-/
def isSettled (token : Token) : Bool :=
  match token.kind with
  | .sign => token.text.length = longestSign
  | .quoted => (token.text.dropWhile fun c => c != '"' && c != '\'').length != 2
  | _ => false

/-- The end of the text has been seen with its last token, which could have gone on. -/
def isUsedUp (scanner : Scanner) (last : Option Token) : Bool :=
  scanner.rest.isEmpty && last.any (!isSettled ·)

/-- The tokens from here on, of which there are at most so many, after those that have been found
already, the latest first.
-/
def tokens (scanner : Scanner) (found : List Token) : Nat → Source
  | 0 => ⟨found.reverse.toArray, .complete, true⟩
  | count + 1 =>
      match scanner.next (scanner.rest.length + 1) with
      | .error ending => ⟨found.reverse.toArray, ending, scanner.isUsedUp found.head?⟩
      | .ok (token, next) =>
          if token.kind = .finish then ⟨(token :: found).reverse.toArray, .complete, true⟩
          else next.tokens (token :: found) count

end Scanner

/-- The tokens of a text, whose first line may have another number than one. -/
def Source.ofText (text : List Char) (line : Nat) : Source :=
  let text := Text.unifyLineEnds text
  Scanner.tokens { rest := text, line } [] (3 * text.length + 3)

example : ((Source.ofText "f(1, 'a') # x".toList 1).tokens.toList.map (String.ofList ·.text))
    = ["f", "(", "1", ",", "'a'", ")", ""] := by cbv

end SqlShell.Literal
