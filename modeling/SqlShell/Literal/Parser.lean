import SqlShell.Literal.Expr
import SqlShell.Literal.Token

/-!
Parsers over the tokens of a text. A parser finds a value, finds nothing, or meets a flaw that ends
all reading. Rules remember what they have found at a place, so that a second try costs nothing and
has the first one's answer; rules that begin with themselves grow what they find step by step.
-/

namespace SqlShell.Literal

/-- The rules that are tried again and again at one place, or that contain themselves. -/
inductive Rule where
  | expression
  | starExpression
  | disjunction
  | conjunction
  | inversion
  | bitOr
  | bitXor
  | bitAnd
  | shift
  | sum
  | term
  | factor
  | awaited
  | primary
  | arguments
  | quoted
  | target
  | targetAtom
  | targetPrimary
  | namingMisuse
  deriving DecidableEq, Repr

/-- What parsers read: the tokens, and how an expression inside a template is checked, given its
text and its line.
-/
structure Setting where
  source : Source
  checkInner : List Char → Nat → Except Flaw Unit

/-- What rules have found at a place: an expression with the place after it, or nothing. -/
abbrev Memory := List (Rule × Option (Expr × Nat))

/-- The state of reading: the place that is reached, how many tokens have been looked at, whether
misuses are looked for, and what rules have found at each place.
-/
structure Progress where
  place : Nat := 0
  reached : Nat := 0
  isStrict : Bool
  memories : Array Memory

/-- What a parser answers. -/
inductive Answer (α : Type) where
  | found (value : α)
  | absent
  | flawed (flaw : Flaw)

/-- A parser of values. -/
def Parser (α : Type) : Type :=
  Setting → Progress → Answer α × Progress

namespace Parser

/-- The parser that reads nothing and finds a value. -/
def found (value : α) : Parser α :=
  fun _ progress => (.found value, progress)

/-- The parser that finds nothing. -/
def absent : Parser α :=
  fun _ progress => (.absent, progress)

/-- The parser that meets a flaw. -/
def flawed (flaw : Flaw) : Parser α :=
  fun _ progress => (.flawed flaw, progress)

/-- The parser that meets a misuse. -/
def misuse (flaw : Misuse) : Parser α :=
  flawed (.misuse flaw)

/-- One parser after another one. -/
def andThen (first : Parser α) (second : α → Parser β) : Parser β :=
  fun setting progress =>
    match first setting progress with
    | (.found value, progress) => second value setting progress
    | (.absent, progress) => (.absent, progress)
    | (.flawed flaw, progress) => (.flawed flaw, progress)

instance : Monad Parser where
  pure := found
  bind := andThen

/-- The token at the place that is reached. Where there is none, the way the tokens end is met. -/
def peek : Parser Token :=
  fun setting progress =>
    match setting.source.tokens[progress.place]? with
    | some token =>
        (.found token, { progress with reached := max progress.reached (progress.place + 1) })
    | none =>
        match setting.source.ending.flaw? with
        | some flaw => (.flawed flaw, progress)
        | none => (.absent, progress)

/-- The token that stands before the place that is reached. -/
def last : Parser Token :=
  fun setting progress =>
    match setting.source.tokens[progress.place - 1]? with
    | some token => (.found token, progress)
    | none => (.absent, progress)

/-- The line of the next token. -/
def line : Parser Nat :=
  do return (← peek).line

/-- Goes on to the next token. -/
def advance : Parser Unit :=
  fun _ progress => (.found (), { progress with place := progress.place + 1 })

/-- The next token, if it passes a test. -/
def token (test : Token → Bool) : Parser Token := do
  let token ← peek
  if test token then
    advance
    return token
  else
    absent

/-- The given sign. -/
def sign (text : String) : Parser Token :=
  token fun token => token.kind = .sign && String.ofList token.text == text

/-- The given word of the notation. -/
def keyword (text : String) : Parser Token :=
  token fun token => token.kind = .keyword && String.ofList token.text == text

/-- A token of a kind. -/
def kind (kind : TokenKind) : Parser Token :=
  token (·.kind = kind)

/-- A name. -/
def name : Parser Token :=
  kind .name

/-- What a parser finds, if it finds something; otherwise nothing is read. -/
def optional (parser : Parser α) : Parser (Option α) :=
  fun setting progress =>
    match parser setting progress with
    | (.found value, progress) => (.found (some value), progress)
    | (.absent, after) => (.found none, { after with place := progress.place })
    | (.flawed flaw, progress) => (.flawed flaw, progress)

/-- What the first parser finds that finds something. -/
def firstOf : List (Parser α) → Parser α
  | [] => absent
  | parser :: rest => do
      match ← optional parser with
      | some value => return value
      | none => firstOf rest

/-- The first parser that finds something decides, also if what it finds is nothing. -/
def decided (parsers : List (Parser (Option α))) : Parser α := do
  match ← firstOf parsers with
  | some value => return value
  | none => absent

/-- Whether a parser would find something here; nothing is read. -/
def wouldFind (parser : Parser α) : Parser Bool :=
  fun setting progress =>
    match parser setting progress with
    | (.found _, after) => (.found true, { after with place := progress.place })
    | (.absent, after) => (.found false, { after with place := progress.place })
    | (.flawed flaw, after) => (.flawed flaw, after)

/-- Goes on only if a parser would find something here. -/
def ahead (parser : Parser α) : Parser Unit := do
  if ← wouldFind parser then return else absent

/-- Goes on only if a parser would find nothing here. -/
def notAhead (parser : Parser α) : Parser Unit := do
  if ← wouldFind parser then absent else return

/-- As many values as there are, but no more than the given number. -/
def atMost (parser : Parser α) : Nat → Parser (List α)
  | 0 => return []
  | count + 1 => do
      match ← optional parser with
      | none => return []
      | some value => return value :: (← atMost parser count)

/-- As many values as there are; each takes a token, so there are no more than tokens. -/
def many (parser : Parser α) : Parser (List α) :=
  fun setting => atMost parser setting.source.tokens.size setting

/-- As many values as there are, and one at least. -/
def several (parser : Parser α) : Parser (List α) :=
  do return (← parser) :: (← many parser)

/-- Values with commas between them, and one at least. -/
def commas (parser : Parser α) : Parser (List α) := do
  let value ← parser
  return value :: (← many (sign "," *> parser))

/-- Goes on only if misuses are looked for. -/
def whenStrict (parser : Parser α) : Parser α :=
  fun setting progress =>
    if progress.isStrict then parser setting progress else (.absent, progress)

/-- What a parser finds without looking for misuses. -/
def lenient (parser : Parser α) : Parser α :=
  fun setting progress =>
    let (answer, after) := parser setting { progress with isStrict := false }
    (answer, { after with isStrict := progress.isStrict })

/-- What a rule is known to find here, if it has been tried. -/
def remembered (rule : Rule) : Parser (Option (Option Expr)) := do
  let _ ← peek
  fun _ progress =>
    match ((progress.memories.getD progress.place []).find? (·.1 = rule)).map (·.2) with
    | none => (.found none, progress)
    | some none => (.found (some none), progress)
    | some (some (expr, place)) => (.found (some (some expr)), { progress with place })

/-- Remembers what a rule has found at a place. -/
def remember (rule : Rule) (place : Nat) (found : Option (Expr × Nat)) : Parser Unit :=
  fun _ progress =>
    let others := (progress.memories.getD place []).filter (·.1 ≠ rule)
    let memories := progress.memories.setIfInBounds place ((rule, found) :: others)
    (.found (), { progress with memories })

/-- The place that is reached. -/
def place : Parser Nat :=
  fun _ progress => (.found progress.place, progress)

/-- Goes to a place. -/
def goTo (place : Nat) : Parser Unit :=
  fun _ progress => (.found (), { progress with place })

/-- What a rule finds, from memory if it has been tried here before. -/
def once (rule : Rule) (parser : Parser Expr) : Parser Expr := do
  match ← remembered rule with
  | some (some expr) => return expr
  | some none => absent
  | none =>
      let start ← place
      match ← optional parser with
      | some expr => do
          remember rule start (some (expr, ← place))
          return expr
      | none => do
          remember rule start none
          absent

/-- What a rule finds that may begin with itself: it is tried with what it has found so far, as long
as that gets longer, and no more often than there are tokens.
-/
def grown (rule : Rule) (parser : Parser Expr) : Parser Expr := do
  match ← remembered rule with
  | some (some expr) => return expr
  | some none => absent
  | none =>
      let start ← place
      fun setting => grow start none start (setting.source.tokens.size + 1) setting
where
  /-- The finished value, from the place after it on. -/
  finish (best : Option Expr) (stop : Nat) : Parser Expr := do
    goTo stop
    match best with
    | some expr => return expr
    | none => absent
  /-- Tries to find more than the best value so far, which ends at a place. -/
  grow (start : Nat) (best : Option Expr) (stop : Nat) : Nat → Parser Expr
    | 0 => finish best stop
    | count + 1 => do
        remember rule start (best.map (·, stop))
        goTo start
        match ← optional parser with
        | none => finish best stop
        | some expr => do
            let reached ← place
            if reached ≤ stop then finish best stop
            else grow start (some expr) reached count

end Parser

end SqlShell.Literal
