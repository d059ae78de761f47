import SqlShell.Number.Reading
import SqlShell.Text.LowerCase
import SqlShell.Url.Base64
import SqlShell.Url.Percent
import SqlShell.Value.Basic
import SqlShell.Yaml.Problem
import SqlShell.Yaml.Tag

/-!
The values of scalars: what the text of a scalar stands for in the type that it has. A text need
not fit the type, as a tag may name any.
-/

namespace SqlShell.Yaml.Scalar

/-- A number in digits of the given base. -/
def intOf (base : Nat) (text : List Char) : Except Problem Int :=
  (Number.readInt base text).mapError (.intText base text)

/-- A number with a point. -/
def floatOf (text : List Char) : Except Problem Binary64 :=
  match Number.readFloat? text with
  | some x => .ok x
  | none => .error (.floatText text)

/-- Splits the sign off a number that is not empty, and off the rest, which may not be empty
either.
-/
def signOf (text : List Char) : Except Problem (Bool × List Char) :=
  match text with
  | [] => .error .emptyNumber
  | '-' :: rest => .ok (true, rest)
  | '+' :: rest => .ok (false, rest)
  | _ => .ok (false, text)

/-- The value of a whole number without its sign: a zero before it means base eight, a letter
after the zero another base, and colons part the digits of base sixty.
-/
def sizeOf (text : List Char) : Except Problem Int :=
  match text with
  | [] => .error .emptyNumber
  | ['0'] => .ok 0
  | '0' :: 'b' :: digits => intOf 2 digits
  | '0' :: 'x' :: digits => intOf 16 digits
  | '0' :: _ => intOf 8 text
  | _ =>
      if text.contains ':' then do
        let digits ← (Text.pieces ':' text).mapM (intOf 10)
        return digits.foldl (fun value digit => value * 60 + digit) 0
      else
        intOf 10 text

/-- The value of a whole number. -/
def int (text : List Char) : Except Problem Int := do
  let (negative, text) ← signOf (text.filter (· != '_'))
  let size ← sizeOf text
  return if negative then -size else size

/-- The value of a place in base sixty, which may be too great for a number with a point. -/
def placeValue (place : Nat) : Except Problem Binary64 :=
  match Binary64.ofInt (Nat.pow 60 place) with
  | .infinity _ => .error .tooManyPlaces
  | value => .ok value

/-- The sum of the digits of base sixty, the last of them first. -/
def sexagesimal (digits : List Binary64) : Except Problem Binary64 :=
  (digits.reverse.zipIdx).foldlM
    (fun sum (digit, place) => do return sum.add (digit.mul (← placeValue place))) (.ofInt 0)

/-- The value of a number with a point. -/
def float (text : List Char) : Except Problem Value := do
  let (negative, text) ← signOf (Text.toLower (text.filter (· != '_')))
  if text == ".nan".toList then
    return .notNumber
  let size ←
    if text == ".inf".toList then pure (Binary64.infinity false)
    else if text.contains ':' then do sexagesimal (← (Text.pieces ':' text).mapM floatOf)
    else floatOf text
  return .float (if negative then size.negate else size)

/-- The value of a word for a truth value, in any spelling. -/
def bool (text : List Char) : Except Problem Bool :=
  let word := Text.toLower text
  if ["yes", "true", "on"].contains (String.ofList word) then .ok true
  else if ["no", "false", "off"].contains (String.ofList word) then .ok false
  else .error (.boolText word)

/-- The bytes that a text encodes. -/
def binary (text : List Char) : Except Problem (List UInt8) :=
  if text.all Url.isAscii then
    (Base64.decode (text.map fun c => UInt8.ofNat c.toNat)).mapError fun _ => .malformed
  else
    .error .malformed

/-- The date or moment that a text denotes; a line feed at its end does not count. -/
def moment (text : List Char) : Except Problem Value :=
  let line := if text.getLast? == some '\n' then text.dropLast else text
  match momentFields? line with
  | none => .error .momentText
  | some ⟨year, month, day, none⟩ => ((Date.of year month day).mapError .date).map .date
  | some ⟨year, month, day, some time⟩ =>
      ((time.moment year month day).mapError .date).map .moment

end SqlShell.Yaml.Scalar
