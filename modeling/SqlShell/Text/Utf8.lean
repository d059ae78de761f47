import SqlShell.Text.Quoted

/-!
The encoding UTF-8: writing texts as bytes, and reading bytes either strictly, with the place
and the kind of the first fault, or with a mark in place of each faulty stretch.
-/

namespace SqlShell.Utf8

/-- The bytes of a text. -/
def encode (text : List Char) : List UInt8 :=
  text.flatMap String.utf8EncodeChar

/-- What is wrong with a faulty stretch of bytes. -/
inductive Flaw where
  | startByte
  | continuationByte
  | endOfData
  deriving DecidableEq, Repr

/-- The first faulty stretch of a byte string: its bytes, their position, and what is wrong. -/
structure Problem where
  flaw : Flaw
  bytes : List UInt8
  position : Nat
  deriving DecidableEq, Repr

/-- What stands at the start of bytes that are not empty: a character that takes a number of
further bytes, or a faulty stretch that takes a number of further bytes.
-/
inductive Step where
  | char (c : Char) (further : Nat)
  | faulty (flaw : Flaw) (further : Nat)
  deriving DecidableEq, Repr

/-- The byte continues a character. -/
def isContinuation (byte : UInt8) : Bool :=
  0x80 ≤ byte.toNat && byte.toNat < 0xC0

/-- The second byte may follow the first of a character of three or four bytes: no character
has a shorter form, is a surrogate, or lies beyond the last code point.
-/
def isSecond (first second : UInt8) : Bool :=
  isContinuation second
    && !(first == 0xE0 && second < 0xA0) && !(first == 0xED && 0xA0 ≤ second)
    && !(first == 0xF0 && second < 0x90) && !(first == 0xF4 && 0x90 ≤ second)

/-- The low six bits of a continuation byte. -/
def payload (byte : UInt8) : Nat :=
  byte.toNat % 64

/-- What stands at the start of the bytes with the given first byte. -/
def step (first : UInt8) (rest : List UInt8) : Step :=
  let n := first.toNat
  if n < 0x80 then
    .char (Char.ofNat n) 0
  else if n < 0xC2 || 0xF5 ≤ n then
    .faulty .startByte 0
  else
    match rest with
    | [] => .faulty .endOfData 0
    | second :: rest =>
        if !isSecond first second then
          .faulty .continuationByte 0
        else if n < 0xE0 then
          .char (Char.ofNat (n % 32 * 64 + payload second)) 1
        else
          match rest with
          | [] => .faulty .endOfData 1
          | third :: rest =>
              if !isContinuation third then
                .faulty .continuationByte 1
              else if n < 0xF0 then
                .char (Char.ofNat ((n % 16 * 64 + payload second) * 64 + payload third)) 2
              else
                match rest with
                | [] => .faulty .endOfData 2
                | fourth :: _ =>
                    if !isContinuation fourth then
                      .faulty .continuationByte 2
                    else
                      .char (Char.ofNat
                        (((n % 8 * 64 + payload second) * 64 + payload third) * 64
                          + payload fourth)) 3

/-- The text of bytes that start at a position of a longer byte string, or the first faulty
stretch.
-/
def decodeFrom (position : Nat) : List UInt8 → Except Problem (List Char)
  | [] => .ok []
  | first :: rest =>
      match step first rest with
      | .char c further =>
          (decodeFrom (position + 1 + further) (rest.drop further)).map (c :: ·)
      | .faulty flaw further => .error ⟨flaw, first :: rest.take further, position⟩
  termination_by bytes => bytes.length
  decreasing_by simp only [List.length_drop, List.length_cons]; omega

/-- The text of a byte string, or its first faulty stretch. -/
def decode (bytes : List UInt8) : Except Problem (List Char) :=
  decodeFrom 0 bytes

/-- The text of a byte string with a replacement character for each faulty stretch. -/
def decodeLossy : List UInt8 → List Char
  | [] => []
  | first :: rest =>
      match step first rest with
      | .char c further => c :: decodeLossy (rest.drop further)
      | .faulty _ further => '\uFFFD' :: decodeLossy (rest.drop further)
  termination_by bytes => bytes.length
  decreasing_by all_goals simp only [List.length_drop, List.length_cons]; omega

/-- The wording of a flaw. -/
def Flaw.message : Flaw → String
  | .startByte => "invalid start byte"
  | .continuationByte => "invalid continuation byte"
  | .endOfData => "unexpected end of data"

/-- The wording of a faulty stretch: a single byte is named, of more only the positions. -/
def Problem.message (problem : Problem) : String :=
  let place := match problem.bytes with
    | [byte] =>
        "byte 0x" ++ String.ofList (Text.hexDigits 2 byte.toNat) ++ " in position "
          ++ toString problem.position
    | bytes =>
        "bytes in position " ++ toString problem.position ++ "-"
          ++ toString (problem.position + bytes.length - 1)
  "'utf-8' codec can't decode " ++ place ++ ": " ++ problem.flaw.message

example : (decode [0x61, 0xC3, 0x28]).isOk = false := by cbv

end SqlShell.Utf8
