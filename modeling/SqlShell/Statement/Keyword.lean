import SqlShell.Statement.Split
import SqlShell.Text.UpperCase

/-!
The leading keyword of a statement, which tells updates and shell commands from the rest.
-/

namespace SqlShell.Statement

open SqlShell.Text

/-- The first word of the code of the lines, each read as if no literal were open before it,
in upper case and without terminators at its end.
-/
def keywordOfLines : List (List Char) → List Char
  | [] => []
  | line :: lines =>
      match trim (scan none line).1 with
      | [] => keywordOfLines lines
      | code => toUpper (dropEndWhile (· == ';') (firstWord code))

/-- The leading keyword of a statement in upper case; empty if it has no code. -/
def keyword (statement : List Char) : List Char :=
  keywordOfLines (splitLines statement)

/-- The leading keywords of the statements that change the contents of tables, in order. -/
def updateKeywords : List String :=
  ["DELETE", "INSERT", "REPLACE", "UPDATE"]

/-- The statement changes the contents of tables. -/
def isUpdate (statement : List Char) : Bool :=
  updateKeywords.contains (String.ofList (keyword statement))

/-- The statement is the keyword alone, up to outer blanks and letter case. -/
def isCommand (name : String) (statement : List Char) : Bool :=
  String.ofList (keyword statement) == name
    && toUpper (trim statement) == keyword statement

end SqlShell.Statement
