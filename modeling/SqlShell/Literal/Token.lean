import SqlShell.Literal.Flaw

/-!
The tokens of a text: words, numbers, quoted texts and signs with their lines, and how the tokens
end.
-/

namespace SqlShell.Literal

/-- What a token is. Line feeds and a change of indentation are tokens of their own. -/
inductive TokenKind where
  | name
  | keyword
  | number
  | quoted
  | sign
  | newline
  | indent
  | dedent
  | finish
  deriving DecidableEq, Repr

/-- A token: what it is, its characters, the line it starts on, and the number of parentheses
that are open after it.
-/
structure Token where
  kind : TokenKind
  text : List Char := []
  line : Nat
  level : Nat
  deriving DecidableEq, Repr

/-- The names that are words of the notation. -/
def keywords : List String := [
  "False", "None", "True", "and", "as", "assert", "async", "await", "break", "class",
  "continue", "def", "del", "elif", "else", "except", "finally", "for", "from", "global", "if",
  "import", "in", "is", "lambda", "nonlocal", "not", "or", "pass", "raise", "return", "try",
  "while", "with", "yield"
]

/-- How the tokens of a text end: with all of its characters in tokens, at a flaw of characters, or
early, perhaps with a parenthesis that is still open and the line of that one.
-/
inductive Ending where
  | complete
  | flawed (flaw : ScanFlaw)
  | early (flaw : EndFlaw) (opened : Option (Char × Nat))
  deriving DecidableEq, Repr

/-- The flaw that is met where the tokens end. -/
def Ending.flaw? : Ending → Option Flaw
  | .complete => none
  | .flawed flaw => some (.scan flaw)
  | .early flaw _ => some (.ending flaw)

/-- The flaw for which others are passed over when the last token that was looked at stands on the
given line: one of characters always, and a parenthesis of an earlier line that is not closed.
-/
def Ending.overriding? (line : Nat) : Ending → Option Flaw
  | .complete => none
  | .flawed flaw => some (.scan flaw)
  | .early _ none => none
  | .early _ (some (opening, opened)) =>
      if opened < line then some (.ending (.unclosed opening)) else none

/-- The tokens of a text, the way they end, and whether the end of the text is seen with the last
one.
-/
structure Source where
  tokens : Array Token
  ending : Ending
  isUsedUp : Bool
  deriving Repr

end SqlShell.Literal
