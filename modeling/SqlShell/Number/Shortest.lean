import SqlShell.Number.Binary64

/-!
The decimal text of a floating point number: the fewest digits from which the same number is
read back, and of the texts with so many digits the nearest.
-/

namespace SqlShell.Binary64

/-- The points between which a positive finite number is the nearest one, in quarters of its
last place: below it the grid may be twice as fine.
-/
def quarterBounds (significand : Nat) (exponent : Int) : Nat × Nat :=
  let below := if significand = Nat.pow 2 52 && leastExponent < exponent then 1 else 2
  (4 * significand - below, 4 * significand + 2)

/-- A power of ten as a numerator and a denominator. -/
def powerOfTen (k : Int) : Nat × Nat :=
  if 0 ≤ k then (Nat.pow 10 k.toNat, 1) else (1, Nat.pow 10 (-k).toNat)

/-- The number of places before the decimal point of a positive finite number; not positive if
zeros follow the point.
-/
def decimalPlaces (significand : Nat) (exponent : Int) : Int :=
  let guess : Int := ((significand.log2 : Int) + exponent) * 30103 / 100000
  let (num, den) := scale significand 1 (-exponent)
  let reaches (k : Int) : Bool :=
    let (a, b) := powerOfTen k
    a * den ≤ num * b
  if reaches (guess + 1) then guess + 2 else if reaches guess then guess + 1 else guess

/-- A point of the decimal grid at the given power of ten that reads back as the number with
the given significand, the nearer one if there are two.
-/
def gridPoint? (significand : Nat) (exponent k : Int) : Option Nat :=
  let (low, high) := quarterBounds significand exponent
  let (a, b) := powerOfTen k
  let (num, den) := scale 1 1 (2 - exponent)
  let unit := a * den
  let place (quarters : Nat) : Nat := quarters * num * b
  let closed := significand % 2 == 0
  let within (d : Nat) : Bool :=
    if closed then place low ≤ d * unit && d * unit ≤ place high
    else place low < d * unit && d * unit < place high
  let d := place (4 * significand) / unit
  match within d, within (d + 1) with
  | true, true =>
      let down := place (4 * significand) - d * unit
      let up := (d + 1) * unit - place (4 * significand)
      some (if down < up || (down == up && d % 2 == 0) then d else d + 1)
  | true, false => some d
  | false, true => some (d + 1)
  | false, false => none

/-- The first grid with a point that reads back, tried from the given number of digits on. -/
def searchDigits (significand : Nat) (exponent places : Int) : Nat → Nat → Nat × Int
  | 0, _ => (significand, exponent)
  | fuel + 1, count =>
      match gridPoint? significand exponent (places - count) with
      | some d => (d, places - count)
      | none => searchDigits significand exponent places fuel (count + 1)

/-- The whole number without its trailing zeros, and the power of ten raised accordingly. -/
def dropZeros : Nat → Nat → Int → Nat × Int
  | 0, digits, k => (digits, k)
  | fuel + 1, digits, k =>
      if digits % 10 = 0 && digits ≠ 0 then dropZeros fuel (digits / 10) (k + 1)
      else (digits, k)

/-- The fewest digits of a positive finite number and the power of ten of the last of them;
seventeen digits always suffice.
-/
def shortestDigits (significand : Nat) (exponent : Int) : Nat × Int :=
  let places := decimalPlaces significand exponent
  let (digits, k) := searchDigits significand exponent places 17 1
  dropZeros 17 digits k

/-- The decimal exponents whose numbers are written without an exponent. -/
def isPositional (exponent : Int) : Bool :=
  -4 ≤ exponent && exponent < 16

/-- The digits with the decimal point after the given number of places; at least one digit
stands on either side of it.
-/
def positionalText (digits : List Char) (places : Int) : List Char :=
  if places ≤ 0 then
    '0' :: '.' :: List.replicate (-places).toNat '0' ++ digits
  else
    let before := digits.take places.toNat
    let after := digits.drop places.toNat
    before ++ List.replicate (places.toNat - digits.length) '0' ++ '.'
      :: (if after.isEmpty then ['0'] else after)

/-- The digits with the point after the first and an exponent of at least two digits. -/
def scientificText (digits : List Char) (exponent : Int) : List Char :=
  let size := Nat.toDigits 10 exponent.natAbs
  let padded := if size.length < 2 then '0' :: size else size
  digits.take 1 ++ (if digits.length ≤ 1 then [] else '.' :: digits.drop 1)
    ++ 'e' :: (if exponent < 0 then '-' else '+') :: padded

/-- The text of a positive finite number. -/
def positiveText (significand : Nat) (exponent : Int) : List Char :=
  if significand = 0 then
    ['0', '.', '0']
  else
    let (number, k) := shortestDigits significand exponent
    let digits := Nat.toDigits 10 number
    let places := k + digits.length
    if isPositional (places - 1) then positionalText digits places
    else scientificText digits (places - 1)

/-- The text of a number. -/
def text : Binary64 → String
  | .nan => "nan"
  | .infinity negative => if negative then "-inf" else "inf"
  | .finite negative significand exponent =>
      let body := positiveText significand exponent
      String.ofList (if negative then '-' :: body else body)

example : positiveText 1 (-1074) = ['5', 'e', '-', '3', '2', '4'] := by decide +kernel
example : positiveText (2 ^ 52) (-52) = ['1', '.', '0'] := by decide +kernel

end SqlShell.Binary64
