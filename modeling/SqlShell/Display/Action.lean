import SqlShell.Literal.Value
import SqlShell.Text.Blank
import SqlShell.Text.Name
import SqlShell.Text.Quoted

/-!
Actions: what a tag with an at sign stands for. Its parameters name the action and hold its
arguments in parentheses after the name; the arguments are constants.
-/

namespace SqlShell.Action

/-- Why the arguments of an action cannot be read, with its parameters as they stand in the tag. -/
structure Problem where
  parameters : List Char
  arguments : List Char
  problem : Literal.Problem
  deriving DecidableEq, Repr

/-- The wording of a problem. -/
def Problem.message (problem : Problem) : String :=
  let parameters := String.ofList (Text.quoted problem.parameters)
  match problem.problem with
  | .flaw flaw =>
      "error parsing " ++ String.ofList (Text.quoted problem.arguments) ++ " in " ++ parameters
        ++ "; " ++ flaw.message
  | .value reason => "error parsing " ++ parameters ++ "; " ++ reason.message

/-- The arguments of an action that is named without any. -/
def noArguments : List Char :=
  "()".toList

/-- The arguments that parameters hold: what stands in parentheses on one line after the name of the
action, and all of the parameters if they have another form.
-/
def argumentsOf (parameters : List Char) : List Char :=
  let text := Text.trim parameters
  let rest := text.dropWhile fun c => Text.isWordChar c || c == '.'
  if rest.isEmpty then noArguments
  else if rest.head? == some '(' && rest.getLast? == some ')' && !rest.contains '\n' then rest
  else text

/-- Checks the parameters of an action. There may be none. -/
def check (parameters : List Char) : Except Problem Unit :=
  let arguments := argumentsOf parameters
  if parameters.isEmpty then .ok ()
  else (Literal.checkConstant arguments).mapError (⟨parameters, arguments, ·⟩)

example : argumentsOf " app.bell ".toList = "()".toList := by decide +kernel
example : argumentsOf "f(1) ".toList = "(1)".toList := by decide +kernel
example : argumentsOf "f (1)".toList = "f (1)".toList := by decide +kernel

end SqlShell.Action
