import SqlShell.Fault
import SqlShell.Number.Reading
import SqlShell.Value.Date
import SqlShell.Value.Text

/-!
Why a document cannot be loaded: it is malformed, or one of its scalars has a type that its
text does not fit.
-/

namespace SqlShell.Yaml

/-- Why a document cannot be loaded. -/
inductive Problem where
  | malformed
  | characterCode (code : Nat)
  | intText (base : Nat) (text : List Char) (problem : Number.Problem)
  | floatText (text : List Char)
  | boolText (text : List Char)
  | emptyNumber
  | tooManyPlaces
  | momentText
  | momentMapping
  | date (problem : DateProblem)
  deriving DecidableEq, Repr

/-- The wording of a field of a date that is out of range. -/
def dateMessage : DateProblem → String
  | .year year => "year " ++ toString year ++ " is out of range"
  | .month => "month must be in 1..12"
  | .day => "day is out of range for month"
  | .hour => "hour must be in 0..23"
  | .minute => "minute must be in 0..59"
  | .second => "second must be in 0..59"
  | .offset minutes =>
      "offset must be a timedelta strictly between -timedelta(hours=24) and "
        ++ "timedelta(hours=24), not " ++ spanText minutes ++ "."

/-- The wording of a problem; malformed documents have none. -/
def Problem.message : Problem → String
  | .malformed => ""
  | .characterCode code =>
      if code < 0x80000000 then "chr() arg not in range(0x110000)"
      else "Python int too large to convert to C int"
  | .intText base text problem => problem.message base text
  | .floatText text =>
      "could not convert string to float: " ++ String.ofList (Text.quoted text)
  | .boolText text => String.ofList (Text.quoted text)
  | .emptyNumber => "string index out of range"
  | .tooManyPlaces => "int too large to convert to float"
  | .momentText => "'NoneType' object has no attribute 'groupdict'"
  | .momentMapping => "expected string or bytes-like object, got 'list'"
  | .date problem => dateMessage problem

/-- The kind of fault of a problem. -/
def Problem.kind : Problem → FaultKind
  | .malformed => .document
  | .boolText _ => .key
  | .emptyNumber => .index
  | .tooManyPlaces => .overflow
  | .momentText => .attribute
  | .momentMapping => .type
  | .characterCode code => if code < 0x80000000 then .value .general else .overflow
  | _ => .value .general

/-- The fault of a problem. -/
def Problem.fault (problem : Problem) : Fault :=
  { kind := problem.kind, message := problem.message }

end SqlShell.Yaml
