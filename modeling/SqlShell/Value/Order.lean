import SqlShell.Sort.Runs
import SqlShell.Value.Basic

/-!
The order of keys of mixed types: numbers are ordered among themselves, and so are texts by their
code points, dates and moments. Other keys have no order between them, and sorting entries by their
keys fails at the first two such keys that are compared.
-/

namespace SqlShell

/-- Two keys that have no order between them, by the names of their types. -/
inductive OrderProblem where
  | unlike (left right : String)
  | dateWithMoment
  | clocks
  deriving DecidableEq, Repr

/-- The wording of a missing order. -/
def OrderProblem.message : OrderProblem → String
  | .unlike left right =>
      "'<' not supported between instances of '" ++ left ++ "' and '" ++ right ++ "'"
  | .dateWithMoment => "can't compare datetime.datetime to datetime.date"
  | .clocks => "can't compare offset-naive and offset-aware datetimes"

/-- The name of the type of a value. -/
def Value.typeName : Value → String
  | .null => "NoneType"
  | .bool _ => "bool"
  | .int _ => "int"
  | .float _ => "float"
  | .notNumber => "float"
  | .text _ => "str"
  | .bytes _ => "bytes"
  | .date _ => "datetime.date"
  | .moment _ => "datetime.datetime"
  | .list _ => "list"
  | .pair _ _ => "tuple"
  | .set _ => "set"
  | .map _ => "dict"
  | .again isMap => if isMap then "dict" else "list"

/-- The first list of numbers precedes the second in the order of dictionaries. -/
def lexLess : List Nat → List Nat → Bool
  | _, [] => false
  | [], _ :: _ => true
  | x :: xs, y :: ys => x < y || (x == y && lexLess xs ys)

/-- The first key precedes the second. -/
def Value.precedes (x y : Value) : Except OrderProblem Bool :=
  match x.amount?, y.amount? with
  | some a, some b => .ok (a.less b)
  | _, _ =>
      match x, y with
      | .text s, .text t => .ok (lexLess (s.toList.map Char.toNat) (t.toList.map Char.toNat))
      | .bytes s, .bytes t => .ok (lexLess (s.map UInt8.toNat) (t.map UInt8.toNat))
      | .date s, .date t => .ok (s.dayNumber < t.dayNumber)
      | .moment s, .moment t =>
          if s.offset.isSome == t.offset.isSome then .ok (s.instant < t.instant)
          else .error .clocks
      | .date _, .moment _ => .error .dateWithMoment
      | .moment _, .date _ => .error .dateWithMoment
      | _, _ => .error (.unlike x.typeName y.typeName)

/-- The entries in the order of their keys. -/
def Entries.sorted (entries : Entries) : Except OrderProblem Entries :=
  Sort.sorted (fun x y => x.1.precedes y.1) entries

end SqlShell
