import SqlShell.Text.Utf8

/-!
Percent escapes: a percent sign and two hexadecimal digits stand for a byte, and an escape that
is not complete stands for itself.
-/

namespace SqlShell.Url

/-- The value of a hexadecimal digit. -/
def hexValue? (c : Char) : Option Nat :=
  let n := c.toNat
  if 0x30 ≤ n && n ≤ 0x39 then some (n - 0x30)
  else if 0x41 ≤ n && n ≤ 0x46 then some (n - 0x41 + 10)
  else if 0x61 ≤ n && n ≤ 0x66 then some (n - 0x61 + 10)
  else none

/-- The bytes of a text, each complete escape being one byte. -/
def unescapeBytes : List Char → List UInt8
  | [] => []
  | '%' :: a :: b :: rest =>
      match hexValue? a, hexValue? b with
      | some high, some low => UInt8.ofNat (high * 16 + low) :: unescapeBytes rest
      | _, _ => String.utf8EncodeChar '%' ++ unescapeBytes (a :: b :: rest)
  | c :: rest => String.utf8EncodeChar c ++ unescapeBytes rest

/-- The character belongs to ASCII. -/
def isAscii (c : Char) : Bool :=
  c.toNat < 0x80

/-- The text with its escapes read as UTF-8, where every stretch of ASCII is read on its own
after the `pending` characters of it that have been passed, in reverse.
-/
def unescapeFrom (pending : List Char) : List Char → List Char
  | [] => Utf8.decodeLossy (unescapeBytes pending.reverse)
  | c :: rest =>
      if isAscii c then
        unescapeFrom (c :: pending) rest
      else
        Utf8.decodeLossy (unescapeBytes pending.reverse) ++ c :: unescapeFrom [] rest

/-- The text with its escapes read as UTF-8; faulty bytes become replacement characters. -/
def unescape (text : List Char) : List Char :=
  unescapeFrom [] text

example : unescapeBytes ['%', '%', '4', '1'] = [0x25, 0x41] := by decide +kernel

end SqlShell.Url
