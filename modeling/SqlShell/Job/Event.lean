import SqlShell.Log.Level
import SqlShell.Value.Basic

/-!
The events of a run: everything that the program does to the world around it, in order.
-/

namespace SqlShell

/-- A stream of the terminal: results go to one and diagnostics to the other. -/
inductive Stream where
  | out
  | err
  deriving DecidableEq, Repr

/-- Where the lines that a user entered are kept: in a file, or in memory only. -/
inductive History where
  | file (path : String)
  | memory
  deriving DecidableEq, Repr

/-- What the program does to the world. A connection is numbered if it succeeds; a call of a
collaborator is noted by its name and its arguments.
-/
inductive Event where
  | log (level : LogLevel) (message : String)
  | notice (stream : Stream) (text : String)
  | markup (stream : Stream) (text : String)
  | table (headings : List String) (rows : List (List String))
  | written (stream : Stream) (text : String)
  | connect (database : String) (number : Option Nat)
  | execute (number : Nat) (statement : String)
  | disconnect (number : Nat)
  | ask (history : History)
  | prompt (message : String)
  | exitAction
  | signalAction (signal : Nat)
  | call (name : String) (arguments : List Value)
  deriving Repr

end SqlShell
