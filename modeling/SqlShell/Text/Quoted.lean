import SqlShell.Text.Printable

/-!
Quoted forms of texts and byte strings, as nested values are shown: single quotes unless only
double ones avoid an escape, and escapes for what cannot be shown as it is.
-/

namespace SqlShell.Text

/-- The lower-case hexadecimal digits of a number, padded with zeros to a width. -/
def hexDigits (width n : Nat) : List Char :=
  let digits := Nat.toDigits 16 n
  List.replicate (width - digits.length) '0' ++ digits

/-- The quote that encloses the text: a double one if the text has single ones only. -/
def enclosingQuote (text : List Char) : Char :=
  if text.contains '\'' && !text.contains '"' then '"' else '\''

/-- The escape of a character by its number. -/
def escapeOf (c : Char) : List Char :=
  if c.toNat < 0x100 then '\\' :: 'x' :: hexDigits 2 c.toNat
  else if c.toNat < 0x10000 then '\\' :: 'u' :: hexDigits 4 c.toNat
  else '\\' :: 'U' :: hexDigits 8 c.toNat

/-- The form of a character between the given quotes. -/
def quotedChar (quote c : Char) : List Char :=
  if c == quote || c == '\\' then ['\\', c]
  else if c == '\t' then ['\\', 't']
  else if c == '\n' then ['\\', 'n']
  else if c == '\r' then ['\\', 'r']
  else if isPrintable c then [c]
  else escapeOf c

/-- The text in quotes. -/
def quoted (text : List Char) : List Char :=
  let quote := enclosingQuote text
  quote :: text.flatMap (quotedChar quote) ++ [quote]

/-- The form of a byte between the given quotes: bytes outside ASCII have an escape. -/
def quotedByte (quote : Char) (byte : UInt8) : List Char :=
  let c := Char.ofNat byte.toNat
  if byte.toNat < 0x80 then quotedChar quote c else '\\' :: 'x' :: hexDigits 2 byte.toNat

/-- The byte string in quotes behind its mark. -/
def quotedBytes (bytes : List UInt8) : List Char :=
  let quote := enclosingQuote (bytes.map (Char.ofNat ·.toNat))
  'b' :: quote :: bytes.flatMap (quotedByte quote) ++ [quote]

/-- The two hexadecimal digits of each byte in order. -/
def hexBytes (bytes : List UInt8) : List Char :=
  bytes.flatMap (hexDigits 2 ·.toNat)

example : quoted ['i', 't', '\'', 's'] = ['"', 'i', 't', '\'', 's', '"'] := by decide +kernel

end SqlShell.Text
