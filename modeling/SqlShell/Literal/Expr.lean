import SqlShell.Literal.Flaw

/-!
Expressions: what texts of constants, names and operations stand for, with the line that each one
starts on. Only those are told apart in full of which constants can consist.
-/

namespace SqlShell.Literal

/-- Constants: numbers, texts, truth values and the two that stand for nothing and for dots. -/
inductive Constant where
  | integer (value : Nat)
  | decimal
  | imaginary
  | text
  | bytes
  | truth (value : Bool)
  | nothing
  | dots
  deriving DecidableEq, Repr

/-- The signs of operations that constants may hold, and all others. -/
inductive Sign where
  | plus
  | minus
  | other
  deriving DecidableEq, Repr

/-- The forms of expressions that no constant holds. -/
inductive Form where
  | attribute
  | awaited
  | joined
  | conditional
  | function
  | generator
  | setOfEach
  | dictOfEach
  | naming
  | yielded
  | yieldedFrom
  | template
  deriving DecidableEq, Repr

/-- An expression. Of a call the function is given if it is a name, the number of its arguments
without names, and for each other one whether it unpacks many; of a comparison, whether it first
asks for membership.
-/
inductive Expr where
  | constant (line : Nat) (value : Constant)
  | name (line : Nat) (text : List Char)
  | starred (line : Nat) (value : Expr)
  | tuple (line : Nat) (items : List Expr)
  | set (line : Nat) (items : List Expr)
  | dict (line : Nat) (entries : List (Option Expr × Expr))
  | unary (line : Nat) (sign : Sign) (operand : Expr)
  | binary (line : Nat) (sign : Sign) (left right : Expr)
  | comparison (line : Nat) (isMembership : Bool) (left : Expr)
  | call (line : Nat) (function : Option (List Char)) (count : Nat) (others : List Bool)
  | other (line : Nat) (form : Form)
  deriving Repr

/-- The name of a form. -/
def Form.label : Form → String
  | .attribute => "Attribute"
  | .awaited => "Await"
  | .joined => "BoolOp"
  | .conditional => "IfExp"
  | .function => "Lambda"
  | .generator => "GeneratorExp"
  | .setOfEach => "SetComp"
  | .dictOfEach => "DictComp"
  | .naming => "NamedExpr"
  | .yielded => "Yield"
  | .yieldedFrom => "YieldFrom"
  | .template => "JoinedStr"

/-- What a form is called where it stands in the wrong place. -/
def Form.description : Form → String
  | .attribute => "attribute"
  | .awaited => "await expression"
  | .joined => "expression"
  | .conditional => "conditional expression"
  | .function => "lambda"
  | .generator => "generator expression"
  | .setOfEach => "set comprehension"
  | .dictOfEach => "dict comprehension"
  | .naming => "named expression"
  | .yielded => "yield expression"
  | .yieldedFrom => "yield expression"
  | .template => "f-string expression"

namespace Expr

/-- The line on which an expression starts. -/
def line : Expr → Nat
  | constant line _ => line
  | name line _ => line
  | starred line _ => line
  | tuple line _ => line
  | set line _ => line
  | dict line _ => line
  | unary line _ _ => line
  | binary line _ _ _ => line
  | comparison line _ _ => line
  | call line _ _ _ => line
  | other line _ => line

/-- The name of the form of an expression. -/
def label : Expr → String
  | constant _ _ => "Constant"
  | name _ _ => "Name"
  | starred _ _ => "Starred"
  | tuple _ _ => "Tuple"
  | set _ _ => "Set"
  | dict _ _ => "Dict"
  | unary _ _ _ => "UnaryOp"
  | binary _ _ _ _ => "BinOp"
  | comparison _ _ _ => "Compare"
  | call _ _ _ _ => "Call"
  | other _ form => form.label

/-- What an expression is called where it stands in the wrong place. -/
def description : Expr → String
  | constant _ .nothing => "None"
  | constant _ (.truth true) => "True"
  | constant _ (.truth false) => "False"
  | constant _ .dots => "ellipsis"
  | constant _ _ => "literal"
  | name _ _ => "name"
  | starred _ _ => "starred"
  | tuple _ _ => "tuple"
  | set _ _ => "set display"
  | dict _ _ => "dict literal"
  | unary _ _ _ => "expression"
  | binary _ _ _ _ => "expression"
  | comparison _ _ _ => "comparison"
  | call _ _ _ _ => "function call"
  | other _ form => form.description

/-- The name that an expression is, if it is one. -/
def name? : Expr → Option (List Char)
  | name _ text => some text
  | _ => none

/-- The part of an expression that cannot be what each of many things is called in turn. -/
def wrongTarget? : Expr → Option Expr
  | name _ _ => none
  | other _ .attribute => none
  | starred _ value => wrongTarget? value
  | tuple _ items => wrongTargetIn? items
  | comparison _ isMembership left => if isMembership then wrongTarget? left else none
  | wrong => some wrong
where
  /-- The first part of one of several expressions that cannot be such a thing. -/
  wrongTargetIn? : List Expr → Option Expr
    | [] => none
    | item :: rest => (wrongTarget? item).or (wrongTargetIn? rest)

end Expr

end SqlShell.Literal
