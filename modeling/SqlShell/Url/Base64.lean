/-!
The encoding of bytes in 64 characters: reading it, with other characters passed over.
-/

namespace SqlShell.Base64

/-- Why characters do not encode bytes: the last group is not filled up, or holds one character
after the given number of characters in full groups.
-/
inductive Problem where
  | padding
  | strayDigit (digits : Nat)
  deriving DecidableEq, Repr

/-- The value of a character of the encoding. -/
def value? (byte : UInt8) : Option Nat :=
  let n := byte.toNat
  if 0x41 ≤ n && n ≤ 0x5A then some (n - 0x41)
  else if 0x61 ≤ n && n ≤ 0x7A then some (n - 0x61 + 26)
  else if 0x30 ≤ n && n ≤ 0x39 then some (n - 0x30 + 52)
  else if n == 0x2B then some 62
  else if n == 0x2F then some 63
  else none

/-- A group of four characters under way: how many have been read, the bits left over from the
last of them, and how many marks of filling have followed it.
-/
structure Group where
  count : Nat
  bits : Nat
  marks : Nat

/-- The byte that a value completes in a group, if any, and the group after it. -/
def Group.add (group : Group) (value : Nat) : Option UInt8 × Group :=
  match group.count with
  | 0 => (none, ⟨1, value, 0⟩)
  | 1 => (some (UInt8.ofNat (group.bits * 4 + value / 16)), ⟨2, value % 16, 0⟩)
  | 2 => (some (UInt8.ofNat (group.bits * 16 + value / 4)), ⟨3, value % 4, 0⟩)
  | _ => (some (UInt8.ofNat (group.bits * 64 + value)), ⟨0, 0, 0⟩)

/-- The bytes that the remaining characters encode, after `done` of them. The first group that
is filled up ends the encoding.
-/
def decodeFrom (done : List UInt8) (group : Group) : List UInt8 → Except Problem (List UInt8)
  | [] =>
      if group.count = 0 then .ok done.reverse
      else if group.count = 1 then .error (.strayDigit (done.length / 3 * 4 + 1))
      else .error .padding
  | byte :: rest =>
      if byte = 0x3D then
        if 2 ≤ group.count then
          if 4 ≤ group.count + group.marks + 1 then .ok done.reverse
          else decodeFrom done { group with marks := group.marks + 1 } rest
        else
          decodeFrom done group rest
      else
        match value? byte with
        | none => decodeFrom done group rest
        | some value =>
            let (byte?, group) := group.add value
            decodeFrom (byte?.toList ++ done) group rest

/-- The bytes that characters encode. -/
def decode (encoded : List UInt8) : Except Problem (List UInt8) :=
  decodeFrom [] ⟨0, 0, 0⟩ encoded

example : (decode [0x61, 0x47, 0x6B, 0x3D]).toOption = some [0x68, 0x69] := by decide +kernel

end SqlShell.Base64
