import SqlShell.Number.Binary64
import SqlShell.Value.Date

/-!
The values that configurations hold and statements return, and when two of them are one key.
-/

namespace SqlShell

/-- A value of a configuration or a result. The items of a set are in the order in which it lists
them, the entries of a map in order of insertion. Documents write `notNumber` for the number that
is none; `again` stands where a list or a map is one of its own parts.
-/
inductive Value where
  | null
  | bool (b : Bool)
  | int (n : Int)
  | float (x : Binary64)
  | notNumber
  | text (s : String)
  | bytes (data : List UInt8)
  | date (date : Date)
  | moment (moment : Moment)
  | list (items : List Value)
  | pair (first second : Value)
  | set (items : List Value)
  | map (entries : List (Value × Value))
  | again (isMap : Bool)
  deriving Repr, Inhabited

/-- A list of keys with their values, in order of insertion. -/
abbrev Entries := List (Value × Value)

/-- A number as a whole number or as a floating point one. -/
inductive Amount where
  | whole (n : Int)
  | real (x : Binary64)

/-- Both amounts have the same value. -/
def Amount.same : Amount → Amount → Bool
  | .whole m, .whole n => m == n
  | .whole m, .real y => y.sameInt m
  | .real x, .whole n => x.sameInt n
  | .real x, .real y => x.same y

/-- The first amount is less than the second. -/
def Amount.less : Amount → Amount → Bool
  | .whole m, .whole n => m < n
  | .whole m, .real y => Binary64.intLess m y
  | .real x, .whole n => x.lessInt n
  | .real x, .real y => x.less y

/-- The amount that a value is; a truth value counts as zero or one. -/
def Value.amount? : Value → Option Amount
  | .bool b => some (.whole (if b then 1 else 0))
  | .int n => some (.whole n)
  | .float x => some (.real x)
  | .notNumber => some (.real .nan)
  | _ => none

/-- The value is the one that documents write for no number. -/
def Value.isNotNumber : Value → Bool
  | .notNumber => true
  | _ => false

/-- Two moments are one key if both or neither know the distance of their clock and they name
the same instant.
-/
def Moment.same (x y : Moment) : Bool :=
  x.offset.isSome == y.offset.isSome && x.instant == y.instant

/-- Two values are one key of a map. Numbers are compared by value, whatever their type. A result
that is no number differs from every number and from itself, but all documents write one and
the same value where they write that there is none.
-/
def Value.sameKey (x y : Value) : Bool :=
  match x.amount?, y.amount? with
  | some a, some b => a.same b || (x.isNotNumber && y.isNotNumber)
  | none, none =>
      match x, y with
      | .null, .null => true
      | .text s, .text t => s == t
      | .bytes s, .bytes t => s == t
      | .date s, .date t => s == t
      | .moment s, .moment t => s.same t
      | _, _ => false
  | _, _ => false

/-- The value counts as absent where an entry is optional: it is empty, zero or false. -/
def Value.isEmpty : Value → Bool
  | .null => true
  | .bool b => !b
  | .int n => n == 0
  | .float x => x.isZero
  | .text s => s.isEmpty
  | .bytes data => data.isEmpty
  | .list items => items.isEmpty
  | .set items => items.isEmpty
  | .map entries => entries.isEmpty
  | _ => false

example : Value.sameKey (.int 1) (.bool true) = true := by decide +kernel
example : Value.sameKey (.text "1") (.int 1) = false := by decide +kernel

end SqlShell
