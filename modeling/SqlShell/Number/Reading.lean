import SqlShell.Number.Binary64
import SqlShell.Text.Blank
import SqlShell.Text.Digits
import SqlShell.Text.Quoted

/-!
Reading numbers from text: whole numbers in a given base and decimal floating point numbers,
with the digits of every script.
-/

namespace SqlShell.Number

open SqlShell.Text

/-- Why a text denotes no whole number: it has another form, or more decimal digits than are
read.
-/
inductive Problem where
  | malformed
  | tooLong (digits : Nat)
  deriving DecidableEq, Repr

/-- The greatest number of decimal digits that are read or written. -/
def mostDigits : Nat := 4300

/-- The wording for numbers with more digits. -/
def lengthMessage (found : String) : String :=
  "Exceeds the limit (" ++ toString mostDigits ++ " digits) for integer string conversion" ++ found
    ++ "; use sys.set_int_max_str_digits() to increase the limit"

/-- The wording of a problem with a text. The text is cut after 200 characters. -/
def Problem.message (base : Nat) (text : List Char) : Problem → String
  | .malformed =>
      "invalid literal for int() with base " ++ toString base ++ ": "
        ++ String.ofList ((quoted text).take 200)
  | .tooLong digits => lengthMessage (": value has " ++ toString digits ++ " digits")

/-- What stands for a character that belongs to no number. -/
def foreignMark : Char := '?'

/-- A character of a number in ASCII: beyond ASCII blanks are spaces, and digits of other scripts
have their values.
-/
def inAscii (c : Char) : Char :=
  if c.toNat < 127 then c
  else if isBlank c then ' '
  else
    match digitValue? c with
    | some value => Char.ofNat (0x30 + value)
    | none => foreignMark

/-- The character is a blank of ASCII that may stand around a number. -/
def isPlainBlank (c : Char) : Bool :=
  c == ' ' || (0x09 ≤ c.toNat && c.toNat ≤ 0x0D)

/-- The text of a number in ASCII, without the blanks around it. -/
def plainText (text : List Char) : List Char :=
  dropEndWhile isPlainBlank ((text.map inAscii).dropWhile isPlainBlank)

/-- The value of a digit or letter as a digit, a letter counting from ten on. -/
def baseDigit? (c : Char) : Option Nat :=
  let n := c.toNat
  if 0x30 ≤ n && n ≤ 0x39 then some (n - 0x30)
  else if 0x61 ≤ n && n ≤ 0x7A then some (n - 0x61 + 10)
  else if 0x41 ≤ n && n ≤ 0x5A then some (n - 0x41 + 10)
  else none

/-- The base is a power of two; the length of numbers in such bases has no limit. -/
def isBinaryBase (base : Nat) : Bool :=
  base == 2 || base == 8 || base == 16

/-- The number that digits in a base stand for, after the digits already read. -/
def readDigits (base : Nat) : Nat → List Char → Option Nat
  | value, [] => some value
  | value, c :: rest =>
      match baseDigit? c with
      | some digit => if digit < base then readDigits base (value * base + digit) rest else none
      | none => none

/-- The digits with each single underscore between two of them left out. -/
def joinDigitGroups : List Char → Option (List Char)
  | [] => some []
  | '_' :: _ => none
  | [c] => some [c]
  | c :: '_' :: d :: rest =>
      if d = '_' then none else (joinDigitGroups (d :: rest)).map (c :: ·)
  | [_, '_'] => none
  | c :: rest => (joinDigitGroups rest).map (c :: ·)

/-- Splits the sign off a text; no sign is a plus. -/
def takeSign : List Char → Bool × List Char
  | '-' :: rest => (true, rest)
  | '+' :: rest => (false, rest)
  | text => (false, text)

/-- The digits after the mark of the base, if the mark stands there. -/
def dropBaseMark (base : Nat) : List Char → List Char
  | '0' :: c :: rest =>
      let marked := (base == 16 && (c == 'x' || c == 'X')) || (base == 8 && (c == 'o' || c == 'O'))
        || (base == 2 && (c == 'b' || c == 'B'))
      if marked then (if rest.head? == some '_' then rest.drop 1 else rest) else '0' :: c :: rest
  | text => text

/-- The number of digits at the start of a text, if single underscores part them. -/
def leadingDigits? (base : Nat) (text : List Char) : Option Nat :=
  let isDigitOrMark (c : Char) : Bool := c == '_' || (baseDigit? c).any (· < base)
  (joinDigitGroups (text.takeWhile isDigitOrMark)).map List.length

/-- The whole number that a text denotes in a base: a sign, the mark of the base, and digits
that single underscores may part. The length is told before anything that follows the digits.
-/
def readInt (base : Nat) (text : List Char) : Except Problem Int :=
  let (negative, rest) := takeSign (plainText text)
  let digits := dropBaseMark base rest
  match if isBinaryBase base then none else leadingDigits? base digits with
  | some count => if mostDigits < count then .error (.tooLong count) else wholeOf negative digits
  | none => wholeOf negative digits
where
  wholeOf (negative : Bool) (digits : List Char) : Except Problem Int :=
    match joinDigitGroups digits with
    | some (c :: joined) =>
        match readDigits base 0 (c :: joined) with
        | some n => .ok (if negative then -(n : Int) else n)
        | none => .error .malformed
    | _ => .error .malformed

/-- The exponent part of a decimal text: nothing, or a mark, a sign and digits. -/
def readExponent? : List Char → Option Int
  | [] => some 0
  | c :: rest =>
      if c = 'e' || c = 'E' then
        match takeSign rest with
        | (negative, d :: digits) =>
            (readDigits 10 0 (d :: digits)).map fun n => if negative then -(n : Int) else n
        | _ => none
      else
        none

/-- The floating point number that a decimal text denotes, read as the nearest one. -/
def readFloat? (text : List Char) : Option Binary64 :=
  let (negative, rest) := takeSign (plainText text)
  let word := String.ofList (rest.map Char.toLower)
  if word == "inf" || word == "infinity" then
    some (.infinity negative)
  else if word == "nan" then
    some .nan
  else do
    let digits ← joinDigitGroups rest
    let whole := digits.takeWhile Char.isDigit
    let (fraction, after) := match digits.dropWhile Char.isDigit with
      | '.' :: more => (more.takeWhile Char.isDigit, more.dropWhile Char.isDigit)
      | more => ([], more)
    if whole.isEmpty && fraction.isEmpty then
      none
    else
      let value ← readDigits 10 0 (whole ++ fraction)
      let exponent ← readExponent? after
      some (Binary64.ofDecimal negative value (exponent - fraction.length))

example : (readInt 10 "-1_000".toList).toOption = some (-1000) := by decide +kernel
example : (readInt 10 "٤٢ ".toList).toOption = some 42 := by decide +kernel
example : readFloat? "1.e-5".toList = some (Binary64.ofDecimal false 1 (-5)) := by decide +kernel

end SqlShell.Number
