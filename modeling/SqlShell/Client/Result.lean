import SqlShell.Executor.Statement

/-!
Showing the result of a statement: rows as a table, and the number of changed rows as a notice.
-/

namespace SqlShell

/-- The text of a value in a table: nothing is named as in the database, and bytes are written
in hexadecimal digits.
-/
def cellText : Value → Except Fault String
  | .null => .ok "NULL"
  | .bytes data => .ok (String.ofList (Text.hexBytes data))
  | value => value.shown

namespace StatementResult

open Act

/-- The notice that tells the number of changed rows. -/
def changedNotice (changed : Int) : String :=
  "[INFO] " ++ toString changed ++ " row(s) affected."

/-- The notice that tells the number of rows of a result. -/
def countNotice (count : Nat) : String :=
  toString count ++ " " ++ (if count = 1 then "row" else "rows") ++ " in set"

/-- Shows a result. -/
def shown (result : StatementResult) : Act Unit :=
  if !result.isQuery then
    Console.notice .out
      (if 0 ≤ result.changed then changedNotice result.changed
        else "[INFO] Execute statement succeed.")
  else do
    Console.requireTables
    let rows ← ofResult (result.rows.mapM fun row => row.mapM cellText)
    Console.table result.columns rows
    Console.notice .out (countNotice result.rows.length)

end StatementResult

end SqlShell
