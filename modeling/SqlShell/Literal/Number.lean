import SqlShell.Literal.Token
import SqlShell.Text.Name

/-!
The notation of numbers: in tens with a fraction, an exponent and a mark for imaginary ones, and in
sixteens, eights and twos after a sign for each. Low lines may stand between digits. Each function
passes over a part of a number and gives the text after it.
-/

namespace SqlShell.Literal

open SqlShell.Text (asciiEnd continuesName)

/-- The words that may follow a number without a blank between. -/
def wordsAfterNumber : List String :=
  ["and", "else", "for", "or", "not"]

/-- The starts of words that may do so, whatever follows them. -/
def startsAfterNumber : List String :=
  ["if", "in", "is"]

/-- The character goes on in a word, if it is one of ASCII or beyond it. -/
def goesOnInWord (c : Char) : Bool :=
  asciiEnd ≤ c.toNat || continuesName c

/-- One of the words after which a number may be read stands at the start of a text. -/
def mayFollowNumber (text : List Char) : Bool :=
  startsAfterNumber.any (·.toList.isPrefixOf text)
    || wordsAfterNumber.contains (String.ofList (text.takeWhile goesOnInWord))

/-- Checks that no letter or digit follows a number, except for some words. -/
def checkNumberEnd (kind : NumberKind) (rest : List Char) : Except ScanFlaw (List Char) :=
  let goesOn := rest.head?.any fun c => c.toNat < asciiEnd && continuesName c
  if goesOn && !mayFollowNumber rest then .error (.badNumber kind) else .ok rest

/-- Passes over the digits of a number that has begun; each low line needs a digit after it. -/
def moreDigits : List Char → Except ScanFlaw (List Char)
  | '_' :: c :: rest => if c.isDigit then moreDigits rest else .error (.badNumber .decimal)
  | ['_'] => .error (.badNumber .decimal)
  | c :: rest => if c.isDigit then moreDigits rest else .ok (c :: rest)
  | [] => .ok []

/-- Passes over the zeros at the start of a number. -/
def moreZeros : List Char → Except ScanFlaw (List Char)
  | '_' :: c :: rest =>
      if c == '0' then moreZeros rest
      else if c.isDigit then .ok (c :: rest)
      else .error (.badNumber .decimal)
  | ['_'] => .error (.badNumber .decimal)
  | c :: rest => if c == '0' then moreZeros rest else .ok (c :: rest)
  | [] => .ok []

/-- Passes over the mark of an imaginary number. -/
def afterExponent : List Char → Except ScanFlaw (List Char)
  | [] => .ok []
  | c :: rest =>
      if c == 'j' || c == 'J' then checkNumberEnd .imaginary rest
      else checkNumberEnd .decimal (c :: rest)

/-- Passes over an exponent and what may follow it. A letter for one without digits is the start of
a word.
-/
def afterFraction (text : List Char) : Except ScanFlaw (List Char) :=
  match text with
  | [] => .ok []
  | e :: rest =>
      if e == 'e' || e == 'E' then
        match rest with
        | [] => checkNumberEnd .decimal text
        | c :: more =>
            if c == '+' || c == '-' then
              if more.head?.any Char.isDigit then (moreDigits more).bind afterExponent
              else .error (.badNumber .decimal)
            else if c.isDigit then (moreDigits rest).bind afterExponent
            else checkNumberEnd .decimal text
      else
        afterExponent text

/-- Passes over the digits after a point, and what may follow them. -/
def afterPoint (rest : List Char) : Except ScanFlaw (List Char) :=
  if rest.head?.any Char.isDigit then (moreDigits rest).bind afterFraction
  else afterFraction rest

/-- Passes over what may follow the digits of a whole number. -/
def afterWhole : List Char → Except ScanFlaw (List Char)
  | '.' :: rest => afterPoint rest
  | rest => afterFraction rest

/-- Passes over a number that starts with a zero. Other digits may follow the zeros only if the
number is no whole one.
-/
def afterZero (rest : List Char) : Except ScanFlaw (List Char) := do
  let rest ← moreZeros rest
  if rest.head?.any Char.isDigit then
    let rest ← moreDigits rest
    if rest.head?.any fun c => c == '.' || c == 'e' || c == 'E' || c == 'j' || c == 'J' then
      afterWhole rest
    else
      .error .leadingZeros
  else
    afterWhole rest

/-- The character is a digit of a notation. -/
def isDigitOf : NumberKind → Char → Bool
  | .hexadecimal, c =>
      c.isDigit || ('a' ≤ c && c ≤ 'f') || ('A' ≤ c && c ≤ 'F')
  | .octal, c => '0' ≤ c && c < '8'
  | .binary, c => c == '0' || c == '1'
  | _, c => c.isDigit

/-- Passes over the digits of a notation with a sign. At the start, given by `isDue`, and after a
low line a digit has to stand.
-/
def notedDigits (kind : NumberKind) : Bool → List Char → Except ScanFlaw (List Char)
  | isDue, [] => if isDue then .error (.badNumber kind) else .ok []
  | isDue, c :: rest =>
      if isDigitOf kind c then notedDigits kind false rest
      else if c.isDigit then .error (.badDigit c kind)
      else if isDue then .error (.badNumber kind)
      else if c == '_' then notedDigits kind true rest
      else checkNumberEnd kind (c :: rest)

/-- Passes over the low line that may stand before the digits of a notation with a sign. -/
def notedNumber (kind : NumberKind) (rest : List Char) : Except ScanFlaw (List Char) :=
  match rest with
  | '_' :: more => notedDigits kind true more
  | _ => notedDigits kind true rest

/-- Passes over a number, which starts with a digit or with a point and a digit. -/
def passNumber : List Char → Except ScanFlaw (List Char)
  | '.' :: rest => afterPoint rest
  | '0' :: c :: rest =>
      if c == 'x' || c == 'X' then notedNumber .hexadecimal rest
      else if c == 'o' || c == 'O' then notedNumber .octal rest
      else if c == 'b' || c == 'B' then notedNumber .binary rest
      else afterZero (c :: rest)
  | _ :: rest => (moreDigits rest).bind afterWhole
  | [] => .ok []

example : (passNumber "1_0.5e-3j)".toList).toOption = some [')'] := by decide +kernel
example : (passNumber "0x_fFor".toList).toOption = some "or".toList := by decide +kernel
example : (passNumber "007".toList).toOption = none := by decide +kernel

end SqlShell.Literal
