import SqlShell.Literal.Grammar
import SqlShell.Literal.Scan

/-!
Reading an expression. A text is read once as it should be, and if it is no expression once more
with a look for misuses, to tell what is wrong with it. A flaw of characters anywhere in the text is
told before all others.
-/

namespace SqlShell.Literal

/-- The parser of a rule, in which rules may contain each other so deep. -/
def ruleParser : Nat → Rules
  | 0, _ => Parser.absent
  | depth + 1, rule => Grammar.remembered rule (Grammar.body (ruleParser depth) rule)

/-- How deep rules may contain each other in a text with so many tokens: each rule may do so once
before the next token is read, with a look for misuses and without.
-/
def ruleDepth (tokens : Nat) : Nat :=
  64 * (tokens + 1)

/-- What is read: a whole text, or an expression in the braces of a template. -/
inductive Scope where
  | whole
  | inTemplate
  deriving DecidableEq, Repr

/-- The parser of what is read. -/
def scopeParser (scope : Scope) (rules : Rules) : Parser Expr :=
  match scope with
  | .whole => do
      let expr ← Grammar.expressions rules
      let _ ← Parser.many (Parser.kind .newline)
      let _ ← Parser.kind .finish
      return expr
  | .inTemplate => Grammar.starExpressions rules

/-- The misuse of a text of which nothing else is known than the last token that was looked at. -/
def generalMisuse (last : Option Token) : Misuse :=
  match last with
  | some ⟨.indent, _, _, _⟩ => .indented
  | some ⟨.dedent, _, _, _⟩ => .unindented
  | _ => .invalid

/-- Runs a parser from the start of the tokens. -/
def tryRead (setting : Setting) (scope : Scope) (isStrict : Bool) : Answer Expr × Progress :=
  let size := setting.source.tokens.size
  let parser := scopeParser scope (ruleParser (ruleDepth size))
  parser setting { isStrict, memories := Array.replicate size [] }

/-- The flaw that is told instead of a general one, when so many tokens have been looked at. -/
def generalFlaw (source : Source) (reached : Nat) (flaw : Flaw) : Flaw :=
  (source.ending.overriding? ((source.tokens[reached - 1]?.map (·.line)).getD 0)).getD flaw

/-- The flaw that is told instead of one that a parser has met. One of the way the tokens end stays,
and so does any if the end of the text has been seen.
-/
def toldFlaw (source : Source) (reached : Nat) (flaw : Flaw) : Flaw :=
  match flaw with
  | .scan _ => flaw
  | .ending _ => flaw
  | _ =>
      if source.isUsedUp && source.tokens.size ≤ reached then flaw
      else generalFlaw source reached flaw

/-- The expression that tokens stand for. -/
def readTokens (setting : Setting) (scope : Scope) : Except Flaw Expr :=
  let source := setting.source
  match tryRead setting scope false with
  | (.found expr, _) => .ok expr
  | (.flawed flaw, progress) => .error (toldFlaw source progress.reached flaw)
  | (.absent, progress) =>
      let last := source.tokens[progress.reached - 1]?
      match tryRead setting scope true with
      | (.flawed flaw, again) =>
          .error (toldFlaw source (max progress.reached again.reached) flaw)
      | (_, again) =>
          match generalMisuse last with
          | .invalid =>
              .error (generalFlaw source (max progress.reached again.reached) (.misuse .invalid))
          | other => .error (.misuse other)

/-- Checks an expression in the braces of a template that starts on a line. Templates may stand in
each other so deep.
-/
def checkInner : Nat → List Char → Nat → Except Flaw Unit
  | 0, _, _ => .error (.template .tooDeep)
  | depth + 1, text, line =>
      let source := Source.ofText ('(' :: text ++ [')', '\n']) line
      match readTokens ⟨source, checkInner depth⟩ .inTemplate with
      | .ok _ => .ok ()
      | .error flaw => .error (.inTemplate flaw)

/-- The expression that a text stands for. -/
def readExpr (text : List Char) : Except Flaw Expr :=
  if text.contains (Char.ofNat 0) then
    .error (.content .zeroByte)
  else
    readTokens ⟨Source.ofText text 1, checkInner text.length⟩ .whole

end SqlShell.Literal
