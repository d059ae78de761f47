import SqlShell.Literal.Content

/-!
Templates: quoted texts with expressions in braces, each of which may have a conversion and a format
after it. A brace stands for itself where it is doubled.
-/

namespace SqlShell.Literal

namespace Template

/-- How an expression in braces is checked. -/
abbrev Check := List Char → Except Flaw Unit

/-- Some text up to a place in it, and whether the text after it goes on with more of the same. -/
structure Piece where
  text : List Char
  rest : List Char
  goesOn : Bool

/-- Passes over the name of a character after the brace that opens it. -/
def passName (before : List Char) : List Char → List Char × List Char
  | [] => (before, [])
  | c :: rest => if c == '}' then (c :: before, rest) else passName (c :: before) rest

/-- The text up to an expression or to the end of a format. It is gathered from its end; `isInner`
says that it is part of a format, where no brace is doubled. There are no more steps than
characters.
-/
def literal (isRaw isInner : Bool) : Nat → List Char → List Char → Except TemplateFlaw Piece
  | 0, before, rest => .ok ⟨before.reverse, rest, false⟩
  | _ + 1, before, [] => .ok ⟨before.reverse, [], false⟩
  | steps + 1, before, c :: rest =>
      if !isRaw && c == '\\' then
        match rest with
        | [] => literal isRaw isInner steps (c :: before) rest
        | 'N' :: '{' :: more =>
            let (before, rest) := passName ('{' :: 'N' :: c :: before) more
            literal isRaw isInner steps before rest
        | 'N' :: _ :: _ | ['N'] =>
            literal isRaw isInner steps ((rest.take 2).reverse ++ c :: before) (rest.drop 2)
        | d :: more =>
            if d == '{' || d == '}' then brace (c :: before) d more
            else literal isRaw isInner steps (d :: c :: before) more
      else if c == '{' || c == '}' then
        brace before c rest
      else
        literal isRaw isInner steps (c :: before) rest
where
  /-- What a brace means. -/
  brace (before : List Char) (c : Char) (rest : List Char) : Except TemplateFlaw Piece :=
    if !isInner && rest.head? == some c then .ok ⟨(c :: before).reverse, rest.drop 1, true⟩
    else if !isInner && c == '}' then .error .singleBrace
    else .ok ⟨before.reverse, c :: rest, false⟩

/-- Quotes that are open in an expression: the character, and whether there are three of it. -/
structure Quotes where
  c : Char
  isTriple : Bool
  deriving DecidableEq, Repr

/-- The signs that end an expression in braces. -/
def endsExpression (c : Char) : Bool :=
  c == '!' || c == ':' || c == '}' || c == '='

/-- The greatest number of parentheses within each other. -/
def deepest : Nat := 200

/-- The parenthesis that closes another one. -/
def closing (c : Char) : Char :=
  if c == '(' then ')' else if c == '[' then ']' else '}'

/-- Passes over an expression. It is gathered from its end, while some quotes and parentheses are
open; so many of its characters have been looked at already.
-/
def expression (before : List Char) (quotes : Option Quotes) (opened : List Char) :
    Nat → List Char → Except TemplateFlaw (List Char × List Char)
  | _, [] =>
      if quotes.isSome then .error .unterminated
      else match opened with
        | [] => .ok (before.reverse, [])
        | c :: _ => .error (.unmatched c)
  | seen + 1, c :: rest => expression (c :: before) quotes opened seen rest
  | 0, c :: rest =>
      let isTriple := rest.take 2 == [c, c]
      let isComparison := rest.head? == some '='
      if c == '\\' then .error .backslash
      else
        match quotes with
        | some open_ =>
            if c != open_.c then expression (c :: before) quotes opened 0 rest
            else if !open_.isTriple then expression (c :: before) none opened 0 rest
            else if isTriple then expression (c :: before) none opened 2 rest
            else expression (c :: before) quotes opened 0 rest
        | none =>
            if c == '\'' || c == '"' then
              expression (c :: before) (some ⟨c, isTriple⟩) opened (if isTriple then 2 else 0) rest
            else if c == '(' || c == '[' || c == '{' then
              if deepest ≤ opened.length then .error .manyParentheses
              else expression (c :: before) none (c :: opened) 0 rest
            else if c == '#' then .error .comment
            else if opened.isEmpty && (endsExpression c || c == '<' || c == '>') then
              if isComparison && c != ':' && c != '}' then
                expression (c :: before) none opened 1 rest
              else if endsExpression c then .ok (before.reverse, c :: rest)
              else expression (c :: before) none opened 0 rest
            else if c == ')' || c == ']' || c == '}' then
              match opened with
              | [] => .error (.unmatched c)
              | d :: others =>
                  if closing d == c then expression (c :: before) none others 0 rest
                  else .error (.mismatched c d)
            else
              expression (c :: before) none opened 0 rest

/-- The character is a blank between the parts of an expression. -/
def isBlank (c : Char) : Bool :=
  c == ' ' || c == '\t' || c == '\n' || c == '\x0c'

/-- The letters of conversions. -/
def conversions : List Char := ['s', 'r', 'a']

/-- Passes over an expression and what follows it, from after the brace that opens it up to the one
that closes it. The format is passed over by `format`.
-/
def field (check : Check) (format : List Char → Except Flaw (List Char)) (text : List Char) :
    Except Flaw (List Char) := do
  let (inner, rest) ← (expression [] none [] 0 text).mapError .template
  match rest with
  | [] => .error (.template .unclosed)
  | c :: _ =>
      if inner.all isBlank then
        .error (.template (if c == '}' then .empty else .missingBefore c))
      check inner
      let rest :=
        if c == '=' then
          (rest.drop 1).dropWhile fun d => isBlank d || d == '\r' || d == '\x0b'
        else rest
      let rest ← conversion rest
      let rest ← match rest with
        | ':' :: spec => if spec.isEmpty then .error (.template .unclosed) else format spec
        | _ => pure rest
      match rest with
      | '}' :: rest => return rest
      | _ => .error (.template .unclosed)
where
  /-- Passes over a conversion. -/
  conversion : List Char → Except Flaw (List Char)
    | '!' :: letter :: rest =>
        if conversions.contains letter then .ok rest else .error (.template .badConversion)
    | ['!'] => .error (.template .unclosed)
    | rest => .ok rest

/-- Passes over text and expressions up to the end, or to the brace that closes a format. There are
no more parts than the given number.
-/
def parts (isRaw isInner : Bool) (field : List Char → Except Flaw (List Char)) :
    Nat → List Char → Except Flaw (List Char)
  | 0, text => .ok text
  | count + 1, text => do
      let found ← (literal isRaw isInner (text.length + 1) [] text).mapError .template
      match contentFlaw? isRaw found.text with
      | some flaw => .error (.content flaw)
      | none => pure ()
      if found.goesOn then
        parts isRaw isInner field count found.rest
      else
        match found.rest with
        | '{' :: rest => do parts isRaw isInner field count (← field rest)
        | rest => return rest

/-- How deep expressions may stand in the formats of others. -/
def depth : Nat := 2

/-- Passes over a template in which expressions may still stand so deep. -/
def pass (check : Check) (isRaw : Bool) : Nat → List Char → Except Flaw (List Char)
  | 0, text =>
      parts isRaw true (fun _ => .error (.template .tooDeep)) (text.length + 1) text
  | left + 1, text =>
      let format (spec : List Char) : Except Flaw (List Char) := do
        let rest ← pass check isRaw left spec
        if rest.head? == some '}' then return rest else .error (.template .unclosed)
      parts isRaw (left + 1 < depth) (field check format) (text.length + 1) text

/-- Checks a template. -/
def check (inner : Check) (isRaw : Bool) (content : List Char) : Except Flaw Unit :=
  (pass inner isRaw depth content).map fun _ => ()

end Template

end SqlShell.Literal
