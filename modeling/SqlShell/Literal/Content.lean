import SqlShell.Literal.Flaw

/-!
The content of quoted texts: the letters before the quotes, and the escapes between them. Places of
flaws count each character beyond ASCII as the escape with eight digits that stands for it.
-/

namespace SqlShell.Literal

/-- A quoted text: what its letters say, and what stands between its quotes. -/
structure QuotedText where
  isBytes : Bool
  isRaw : Bool
  isTemplate : Bool
  content : List Char
  deriving DecidableEq, Repr

/-- The quoted text of a token. -/
def QuotedText.ofToken (text : List Char) : QuotedText :=
  let letters := (text.takeWhile Char.isAlpha).map Char.toLower
  let body := text.dropWhile Char.isAlpha
  let isBlock := 6 ≤ body.length && body[0]? == body[1]? && body[0]? == body[2]?
  let size := if isBlock then 3 else 1
  { isBytes := letters.contains 'b',
    isRaw := letters.contains 'r',
    isTemplate := letters.contains 'f',
    content := (body.drop size).take (body.length - 2 * size) }

/-- The character is one of ASCII. -/
def isAscii (c : Char) : Bool :=
  c.toNat < 0x80

/-- The content with an escape of eight digits for each character beyond ASCII. A backslash before
such a character, or at the end, stands for itself.
-/
def spellOut : List Char → List Char
  | [] => []
  | ['\\'] => "\\u005c".toList
  | '\\' :: c :: rest =>
      if isAscii c then '\\' :: c :: spellOut rest
      else "\\u005c".toList ++ escaped c ++ spellOut rest
  | c :: rest => if isAscii c then c :: spellOut rest else escaped c ++ spellOut rest
where
  escaped (c : Char) : List Char :=
    let digits := Nat.toDigits 16 c.toNat
    "\\U".toList ++ List.replicate (8 - digits.length) '0' ++ digits

/-- The character is a digit of numbers in sixteens. -/
def isHexDigit (c : Char) : Bool :=
  c.isDigit || ('a' ≤ c && c ≤ 'f') || ('A' ≤ c && c ≤ 'F')

/-- The value of digits in sixteens. -/
def hexValue (digits : List Char) : Nat :=
  digits.foldl (fun value c =>
    let digit := if c.isDigit then c.toNat - '0'.toNat else c.toLower.toNat - 'a'.toNat + 10
    16 * value + digit) 0

/-- The greatest number of a character. -/
def lastCodePoint : Nat := 0x10FFFF

/-- The digits that an escape with a letter needs, and the flaw if it lacks some. -/
def escapeDigits? : Char → Option (Nat × EscapeFlaw)
  | 'x' => some (2, .shortHex)
  | 'u' => some (4, .shortUnicode)
  | 'U' => some (8, .shortLong)
  | _ => none

/-- The name of a character is told by its form: capitals, digits, spaces and hyphens. -/
def isCharacterName (name : List Char) : Bool :=
  name.all fun c => c.isUpper || c.isDigit || c == ' ' || c == '-'

/-- The flaw of an escape that starts at a place, with the text after its backslash. -/
def escapeFlaw? (start : Nat) : List Char → Option ContentFlaw
  | 'N' :: '{' :: rest =>
      let name := rest.takeWhile (· != '}')
      if name.length = rest.length then some (.escape start (start + 3 + name.length) .badName)
      else if name.isEmpty then some (.escape start (start + 3) .badName)
      else if isCharacterName name then none
      else some (.escape start (start + 4 + name.length) .unknownName)
  | 'N' :: _ => some (.escape start (start + 2) .badName)
  | c :: rest =>
      match escapeDigits? c with
      | none => none
      | some (count, flaw) =>
          let digits := (rest.take count).takeWhile isHexDigit
          if digits.length < count then some (.escape start (start + 2 + digits.length) flaw)
          else if lastCodePoint < hexValue digits then
            some (.escape start (start + 2 + count) .tooLarge)
          else none
  | [] => none

/-- The first flaw of the escapes in text that is spelled out, from a place on. -/
def textFlaw? (place : Nat) : List Char → Option ContentFlaw
  | '\\' :: c :: rest => (escapeFlaw? place (c :: rest)).or (textFlaw? (place + 2) rest)
  | _ :: rest => textFlaw? (place + 1) rest
  | [] => none

/-- The first flaw of the escapes in bytes, from a place on. -/
def bytesFlaw? (place : Nat) : List Char → Option ContentFlaw
  | '\\' :: 'x' :: rest =>
      if ((rest.take 2).takeWhile isHexDigit).length < 2 then some (.byteEscape place)
      else bytesFlaw? (place + 2) rest
  | '\\' :: _ :: rest => bytesFlaw? (place + 2) rest
  | _ :: rest => bytesFlaw? (place + 1) rest
  | [] => none

/-- The flaw of some text, unless it is raw. -/
def contentFlaw? (isRaw : Bool) (content : List Char) : Option ContentFlaw :=
  if isRaw then none else textFlaw? 0 (spellOut content)

/-- The flaw of a quoted text that is no template. -/
def QuotedText.flaw? (text : QuotedText) : Option ContentFlaw :=
  if text.isBytes then
    if !text.content.all isAscii then some .foreignByte
    else if text.isRaw then none
    else bytesFlaw? 0 text.content
  else
    contentFlaw? text.isRaw text.content

example : textFlaw? 0 (spellOut "é\\x1".toList) = some (.escape 10 13 .shortHex) := by
  decide +kernel

end SqlShell.Literal
