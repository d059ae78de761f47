/-!
Floating point numbers of 64 bits as exact values: rounding a ratio to the nearest of them,
sums and products, and comparison with whole numbers.
-/

namespace SqlShell

/-- A floating point number of 64 bits. A finite one is its significand times a power of two;
the significand has 53 bits unless the exponent is the least one.
-/
inductive Binary64 where
  | nan
  | infinity (negative : Bool)
  | finite (negative : Bool) (significand : Nat) (exponent : Int)
  deriving DecidableEq, Repr, Inhabited

namespace Binary64

/-- The exponent of the finest finite numbers. -/
def leastExponent : Int := -1074

/-- The exponent of the coarsest finite numbers. -/
def greatestExponent : Int := 971

/-- The ratio divided by a power of two, as a numerator and a denominator. -/
def scale (num den : Nat) (exponent : Int) : Nat × Nat :=
  if 0 ≤ exponent then
    (num, den * Nat.pow 2 exponent.toNat)
  else
    (num * Nat.pow 2 (-exponent).toNat, den)

/-- The whole number nearest to a ratio; of two equally near ones the even one. -/
def roundToEven (num den : Nat) : Nat :=
  let quotient := num / den
  let remainder := num % den
  if den < 2 * remainder || (2 * remainder == den && quotient % 2 == 1) then
    quotient + 1
  else
    quotient

/-- The exponent at which a positive ratio has a significand of 53 bits, or the least one. -/
def exponentOf (num den : Nat) : Int :=
  let guess : Int := (num.log2 : Int) - den.log2 - 52
  let (n, d) := scale num den guess
  max leastExponent (if n < d * Nat.pow 2 52 then guess - 1 else guess)

/-- The number nearest to a ratio, with the given sign. -/
def ofRatio (negative : Bool) (num den : Nat) : Binary64 :=
  if num = 0 then
    .finite negative 0 leastExponent
  else
    let exponent := exponentOf num den
    let (n, d) := scale num den exponent
    let rounded := roundToEven n d
    let (significand, exponent) :=
      if rounded = Nat.pow 2 53 then (Nat.pow 2 52, exponent + 1) else (rounded, exponent)
    if greatestExponent < exponent then
      .infinity negative
    else
      .finite negative significand exponent

/-- The number nearest to a whole number. -/
def ofInt (n : Int) : Binary64 :=
  ofRatio (n < 0) n.natAbs 1

/-- The number nearest to a whole number times a power of ten. Powers far beyond the finite
numbers are not computed.
-/
def ofDecimal (negative : Bool) (digits : Nat) (exponent : Int) : Binary64 :=
  let places := exponent + (Nat.toDigits 10 digits).length
  if digits = 0 || places < -400 then
    .finite negative 0 leastExponent
  else if 400 < places then
    .infinity negative
  else if 0 ≤ exponent then
    ofRatio negative (digits * Nat.pow 10 exponent.toNat) 1
  else
    ofRatio negative digits (Nat.pow 10 (-exponent).toNat)

/-- The value of a finite number as a numerator and a denominator. -/
def ratio? : Binary64 → Option (Int × Nat)
  | .finite negative significand exponent =>
      let (num, den) := scale significand 1 (-exponent)
      some (if negative then -(num : Int) else num, den)
  | _ => none

/-- The sign is negative. -/
def isNegative : Binary64 → Bool
  | .nan => false
  | .infinity negative => negative
  | .finite negative _ _ => negative

/-- The number with the opposite sign. -/
def negate : Binary64 → Binary64
  | .nan => .nan
  | .infinity negative => .infinity (!negative)
  | .finite negative significand exponent => .finite (!negative) significand exponent

/-- The number is zero of either sign. -/
def isZero : Binary64 → Bool
  | .finite _ significand _ => significand == 0
  | _ => false

/-- The rounded product. -/
def mul (x y : Binary64) : Binary64 :=
  match x.ratio?, y.ratio? with
  | some (a, b), some (c, d) =>
      ofRatio (x.isNegative != y.isNegative) (a.natAbs * c.natAbs) (b * d)
  | _, _ =>
      if x = .nan || y = .nan || x.isZero || y.isZero then .nan
      else .infinity (x.isNegative != y.isNegative)

/-- The rounded sum; a sum of zero is negative only if both numbers are. -/
def add (x y : Binary64) : Binary64 :=
  match x.ratio?, y.ratio? with
  | some (a, b), some (c, d) =>
      let num := a * d + c * b
      if num = 0 then
        .finite (x.isNegative && y.isNegative) 0 leastExponent
      else
        ofRatio (num < 0) num.natAbs (b * d)
  | none, some _ => x
  | some _, none => y
  | none, none => if x = y then x else .nan

/-- Both numbers have the same value: zero has one value with either sign, and what is not a
number has none.
-/
def same (x y : Binary64) : Bool :=
  match x.ratio?, y.ratio? with
  | some (a, b), some (c, d) => a * d == c * b
  | none, none => x = y && x != .nan
  | _, _ => false

/-- The first number is less than the second. -/
def less (x y : Binary64) : Bool :=
  match x.ratio?, y.ratio? with
  | some (a, b), some (c, d) => a * d < c * b
  | some _, none => y = .infinity false
  | none, some _ => x = .infinity true
  | none, none => x = .infinity true && y = .infinity false

/-- The number has the value of the whole number. -/
def sameInt (x : Binary64) (n : Int) : Bool :=
  match x.ratio? with
  | some (a, b) => a == n * b
  | none => false

/-- The number is less than the whole number. -/
def lessInt (x : Binary64) (n : Int) : Bool :=
  match x.ratio? with
  | some (a, b) => a < n * b
  | none => x = .infinity true

/-- The whole number is less than the number. -/
def intLess (n : Int) (x : Binary64) : Bool :=
  match x.ratio? with
  | some (a, b) => n * b < a
  | none => x = .infinity false

example : ofInt 1 = .finite false (2 ^ 52) (-52) := by decide +kernel
example : add (ofDecimal false 1 (-1)) (ofDecimal false 2 (-1))
    ≠ ofDecimal false 3 (-1) := by decide +kernel

end Binary64

end SqlShell
