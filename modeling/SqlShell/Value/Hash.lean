import SqlShell.Value.Basic

/-!
Hashes of keys: numbers that are equal have one hash, and the others are hashed by their bytes.
-/

namespace SqlShell

namespace Hash

/-- The prime modulo which numbers are hashed; it is one less than a power of two. -/
def primeBits : Nat := 61

/-- The prime modulo which numbers are hashed. -/
def prime : Nat := Nat.pow 2 primeBits - 1

/-- The number of hashes. -/
def count : Nat := Nat.pow 2 64

/-- The hash for a signed number. The one for minus one is kept free. -/
def ofSigned (negative : Bool) (size : Nat) : Nat :=
  if !negative || size = 0 then size
  else if size = 1 then count - 2
  else count - size

/-- The hash of a whole number. -/
def ofInt (n : Int) : Nat :=
  ofSigned (n < 0) (n.natAbs % prime)

/-- The hash of infinity. -/
def ofInfinity : Nat := 314159

/-- The hash of a floating point number that is one. A power of two is reduced by the bits of the
prime, so whole numbers have the hash they have as such.
-/
def ofFloat? : Binary64 → Option Nat
  | .nan => none
  | .infinity negative => some (ofSigned negative ofInfinity)
  | .finite negative significand exponent =>
      let shift := (exponent % (primeBits : Int)).toNat
      some (ofSigned negative (significand * Nat.pow 2 shift % prime))

/-- The four words that bytes are mixed into. -/
structure Words where
  a : UInt64
  b : UInt64
  c : UInt64
  d : UInt64
  deriving DecidableEq, Repr

namespace Words

/-- The words before any byte. -/
def start : Words where
  a := 0x736f6d6570736575
  b := 0x646f72616e646f6d
  c := 0x6c7967656e657261
  d := 0x7465646279746573

/-- The word with its bits moved up, the ones that fall out coming in below. -/
def turn (word : UInt64) (bits : UInt64) : UInt64 :=
  (word <<< bits) ||| (word >>> (64 - bits))

/-- The words after a round of mixing. -/
def mixed (words : Words) : Words :=
  let a := words.a + words.b
  let c := words.c + words.d
  let b := turn words.b 13 ^^^ a
  let d := turn words.d 16 ^^^ c
  let a := turn a 32
  let c := c + b
  let a := a + d
  { a, b := turn b 17 ^^^ c, c := turn c 32, d := turn d 21 ^^^ a }

/-- The words after eight more bytes. -/
def fed (words : Words) (block : UInt64) : Words :=
  let words := { words with d := words.d ^^^ block }.mixed
  { words with a := words.a ^^^ block }

/-- The digest of the words after the last bytes. -/
def digest (words : Words) : UInt64 :=
  let words := { words with c := words.c ^^^ 0xff }.mixed.mixed.mixed
  words.a ^^^ words.b ^^^ words.c ^^^ words.d

end Words

/-- The number that bytes stand for, the least one first. -/
def blockOf (bytes : List UInt8) : UInt64 :=
  bytes.foldr (fun byte block => (block <<< 8) ||| byte.toUInt64) 0

/-- The words after the bytes from here on, of which there are at most so many blocks of eight. The
last block ends with the number of all bytes.
-/
def feed (words : Words) (length : Nat) : Nat → List UInt8 → Words
  | blocks + 1, bytes =>
      if bytes.length < 8 then words.fed (blockOf bytes ||| (UInt64.ofNat length <<< 56))
      else feed (words.fed (blockOf (bytes.take 8))) length blocks (bytes.drop 8)
  | 0, bytes => words.fed (blockOf bytes ||| (UInt64.ofNat length <<< 56))

/-- The hash of bytes. No bytes have the hash zero. -/
def ofBytes (bytes : List UInt8) : Nat :=
  if bytes.isEmpty then 0
  else
    let found := (feed .start bytes.length (bytes.length / 8 + 1) bytes).digest.toNat
    if found = count - 1 then count - 2 else found

/-- The bytes of a number, the least one first. -/
def bytesOf (size n : Nat) : List UInt8 :=
  (List.range size).map fun place => UInt8.ofNat (n / Nat.pow 256 place)

/-- The bytes of a text, whose characters all take as many as its greatest one needs. -/
def textBytes (text : List Char) : List UInt8 :=
  let greatest := text.foldl (fun found c => max found c.toNat) 0
  let size := if greatest < 0x100 then 1 else if greatest < 0x10000 then 2 else 4
  text.flatMap (bytesOf size ·.toNat)

/-- The bytes of a date. -/
def dateBytes (date : Date) : List UInt8 :=
  (bytesOf 2 date.year).reverse ++ [UInt8.ofNat date.month, UInt8.ofNat date.day]

/-- The bytes of a moment without a distance of the local clock. -/
def momentBytes (time : Moment) : List UInt8 :=
  dateBytes time.date ++ [time.hour, time.minute, time.second].map UInt8.ofNat
    ++ (bytesOf 3 time.microsecond).reverse

end Hash

/-- The hash of a key, if it has one that is always the same. -/
def Value.hash? : Value → Option Nat
  | .bool b => some (if b then 1 else 0)
  | .int n => some (Hash.ofInt n)
  | .float x => Hash.ofFloat? x
  | .text s => some (Hash.ofBytes (Hash.textBytes s.toList))
  | .bytes data => some (Hash.ofBytes data)
  | .date day => some (Hash.ofBytes (Hash.dateBytes day))
  | .moment time =>
      if time.offset.isNone then some (Hash.ofBytes (Hash.momentBytes time)) else none
  | _ => none

end SqlShell
