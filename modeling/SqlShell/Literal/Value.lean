import SqlShell.Literal.Read
import SqlShell.Fault

/-!
Constants of many parts: an expression is one if it holds numbers, texts and other constants only,
in tuples, sets and dictionaries. What stands in a set, or before a colon, may hold no set or
dictionary.
-/

namespace SqlShell.Literal

/-- A constant of many parts. Of its simple parts nothing has to be known. -/
inductive Value where
  | simple
  | tuple (items : List Value)
  | set
  | dict
  deriving Repr

/-- Why an expression is no constant. -/
inductive ValueProblem where
  | malformed (label : String) (line : Nat)
  | unpacked
  | unhashable (name : String)
  | tooLarge
  deriving DecidableEq, Repr

/-- The wording of a problem. -/
def ValueProblem.message : ValueProblem → String
  | .malformed label line =>
      "malformed node or string on line " ++ toString line ++ ": <ast." ++ label ++ ">"
  | .unpacked => "malformed node or string: None"
  | .unhashable name => "unhashable type: '" ++ name ++ "'"
  | .tooLarge => "int too large to convert to float"

/-- The name of the first part that no set can hold. -/
def Value.unhashable? : Value → Option String
  | simple => none
  | tuple items => unhashableIn? items
  | set => some "set"
  | dict => some "dict"
where
  /-- The first such part of several ones. -/
  unhashableIn? : List Value → Option String
    | [] => none
    | item :: rest => (unhashable? item).or (unhashableIn? rest)

/-- Checks that a set can hold a value. -/
def Value.checkHashable (value : Value) : Except ValueProblem Unit :=
  match value.unhashable? with
  | some name => .error (.unhashable name)
  | none => .ok ()

/-- The problem of an expression that is no constant. -/
def malformed (expr : Expr) : ValueProblem :=
  .malformed expr.label expr.line

/-- The constant of a number. -/
def Expr.numberOf (expr : Expr) : Except ValueProblem Constant :=
  match expr with
  | .constant _ (.integer value) => .ok (.integer value)
  | .constant _ .decimal => .ok .decimal
  | .constant _ .imaginary => .ok .imaginary
  | _ => .error (malformed expr)

/-- The constant of a number that may have a sign. -/
def Expr.signedNumberOf (expr : Expr) : Except ValueProblem Constant :=
  match expr with
  | .unary _ .plus operand => operand.numberOf
  | .unary _ .minus operand => operand.numberOf
  | _ => expr.numberOf

/-- The least integer that is too large to be added to an imaginary number. -/
def tooLargeInteger : Nat :=
  Nat.pow 2 1024 - Nat.pow 2 970

/-- A sum or difference of a real and an imaginary number; `none` if it is one of other numbers. -/
def complexOf (left right : Expr) : Except ValueProblem (Option Value) := do
  match ← left.signedNumberOf, ← right.numberOf with
  | .integer value, .imaginary =>
      if tooLargeInteger ≤ value then .error .tooLarge else return some .simple
  | .decimal, .imaginary => return some .simple
  | _, _ => return none

mutual

/-- The value of an expression that is a constant. -/
def Expr.value (expr : Expr) : Except ValueProblem Value :=
  match expr with
  | .constant _ _ => .ok .simple
  | .tuple _ items => (valuesOf items).map .tuple
  | .set _ items => do
      checkItems items
      return .set
  | .dict _ entries => do
      checkEntries entries
      return .dict
  | .call _ (some name) 0 [] =>
      if name == "set".toList then .ok .set else .error (malformed expr)
  | .binary _ .plus left right => do
      match ← complexOf left right with
      | some value => return value
      | none => .error (malformed expr)
  | .binary _ .minus left right => do
      match ← complexOf left right with
      | some value => return value
      | none => .error (malformed expr)
  | _ => expr.signedNumberOf.map fun _ => .simple

/-- The values of expressions. -/
def valuesOf : List Expr → Except ValueProblem (List Value)
  | [] => .ok []
  | item :: rest => do return (← item.value) :: (← valuesOf rest)

/-- Checks the items of a set, one after another. -/
def checkItems : List Expr → Except ValueProblem Unit
  | [] => .ok ()
  | item :: rest => do
      (← item.value).checkHashable
      checkItems rest

/-- Checks entries, of which each needs a key. -/
def checkEntries : List (Option Expr × Expr) → Except ValueProblem Unit
  | [] => .ok ()
  | (none, _) :: _ => .error .unpacked
  | (some key, value) :: rest => do
      let key ← key.value
      let _ ← value.value
      key.checkHashable
      checkEntries rest

end

/-- Why a text is no constant. -/
inductive Problem where
  | flaw (flaw : Flaw)
  | value (problem : ValueProblem)
  deriving DecidableEq, Repr

/-- Checks that a text is a constant. -/
def checkConstant (text : List Char) : Except Problem Unit := do
  let expr ← (readExpr text).mapError .flaw
  let _ ← expr.value.mapError .value

end SqlShell.Literal
