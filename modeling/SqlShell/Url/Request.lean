import SqlShell.Number.Reading
import SqlShell.Text.Name
import SqlShell.Url.Split

/-!
Names of other machines and requests to them. A name that cannot be looked up and a request that
cannot be written are refused before anything is sent; the network answers the others.
-/

namespace SqlShell.Url

open SqlShell.Text (asciiEnd cutAtLast inRanges pieces)

/-- The greatest number of characters in a label of a name. -/
def longestLabel : Nat := 63

/-- The character ends a label of a name; there are wider forms of the point. -/
def endsLabel (c : Char) : Bool :=
  c == '.' || c == '。' || c == '．' || c == '｡'

/-- Characters that count for nothing in a label. -/
def emptyRanges : List (Nat × Nat) := [
  (0xAD, 0xAD), (0x34F, 0x34F), (0x1806, 0x1806), (0x180B, 0x180D), (0x200B, 0x200D),
  (0x2060, 0x2060), (0xFE00, 0xFE0F), (0xFEFF, 0xFEFF)
]

/-- Characters that no label may have: controls, blanks, marks that describe other characters, and
those that stand for none.
-/
def barredRanges : List (Nat × Nat) := [
  (0x80, 0x9F), (0x6DD, 0x6DD), (0x70F, 0x70F), (0x1680, 0x1680), (0x180E, 0x180E),
  (0x200E, 0x200F), (0x2028, 0x202E), (0x2061, 0x2063), (0x206A, 0x206F), (0x2FF0, 0x2FFB),
  (0xE000, 0xF8FF), (0xFDD0, 0xFDEF), (0xFFF9, 0xFFFD), (0x1D173, 0x1D17A),
  (0xE0001, 0xE0001), (0xE0020, 0xE007F), (0xF0000, 0xFFFFD), (0x100000, 0x10FFFD)
]

/-- The character is barred from labels. So are the last two of each block of 65536. -/
def isBarred (c : Char) : Bool :=
  inRanges barredRanges c.toNat
    || (asciiEnd ≤ c.toNat && 0xFFFE ≤ c.toNat % 0x10000)

/-- Checks a label of a name with characters beyond ASCII. -/
def checkLabel (label : List Char) : Except Problem Unit :=
  let label := label.filter (!inRanges emptyRanges ·.toNat)
  match label.find? isBarred with
  | some c => .error (.barredInLabel c)
  | none => if label.isEmpty || longestLabel < label.length then .error .badLabel else .ok ()

/-- Checks the name of a machine, which is looked up by its labels. Only the last one may be empty.
-/
def checkLabels (name : List Char) : Except Problem Unit :=
  let labels := pieces '.' (name.map fun c => if endsLabel c then '.' else c)
  let last := labels.getLast?.getD []
  if !name.all (·.toNat < asciiEnd) then
    (if last.isEmpty then labels.dropLast else labels).forM checkLabel
  else if labels.dropLast.any fun label => label.isEmpty || longestLabel < label.length then
    .error .badLabel
  else if longestLabel < last.length then
    .error .longLabel
  else
    .ok ()

/-- Looks up a name, in which no character may be zero. -/
def lookUp (name : List Char) : Except Problem Unit := do
  checkLabels name
  if name.contains '\x00' then
    .error .zeroInName

/-- The character would break the lines of a request. -/
def breaksRequest (c : Char) : Bool :=
  c.toNat ≤ 0x20 || c.toNat = 0x7F

/-- Checks a part of a request for characters that would break it. -/
def checkUnbroken (part : List Char) : Except Problem Unit :=
  match part.find? breaksRequest with
  | some c => .error (.broken part c)
  | none => .ok ()

/-- Checks that a text can be written in a code with so many characters. -/
def checkCode (code : String) (size : Nat) (text : List Char) : Except Problem Unit :=
  let place := (text.takeWhile (·.toNat < size)).length
  match (text.drop place).takeWhile (size ≤ ·.toNat) with
  | [] => .ok ()
  | c :: more => .error (.notInCode code size place c more.length)

/-- The name of the machine in a host, without a port. A port is a number, or nothing. -/
def nameOfHost (host : List Char) : Except Problem (List Char) :=
  match cutAtLast ':' host with
  | (name, some port) =>
      if port.contains ']' then .ok host
      else if port.isEmpty then .ok name
      else
        match Number.readInt 10 port with
        | .ok _ => .ok name
        | .error _ => .error (.notNumericPort port)
  | (_, none) => .ok host

/-- A name without the brackets around it. -/
def withoutBrackets (name : List Char) : List Char :=
  if name.head? == some '[' && name.getLast? == some ']' then (name.drop 1).dropLast else name

/-- The word in front of the path in a request. -/
def requestWord : List Char :=
  "GET ".toList

/-- Checks a request for the page of a host at a path. The name is looked up last. -/
def checkRequest (host path : List Char) : Except Problem Unit := do
  if host.isEmpty then
    .error .noHost
  let name := withoutBrackets (← nameOfHost host)
  checkUnbroken name
  checkUnbroken path
  checkCode "ascii" asciiEnd (requestWord ++ path)
  checkCode "latin-1" 256 host
  checkLabels name

/-- Checks the host of a file on another machine, which may follow a user. -/
def checkFileHost (host : List Char) : Except Problem Unit := do
  if host.isEmpty then
    .error .noFileHost
  let name := match cutAtLast ':' host with
    | (name, some port) => if port.all isAsciiDigit then name else host
    | (_, none) => host
  let name := (cutAtLast '@' name).2.getD name
  lookUp (unescape name)

/-- What the network answers to requests for addresses: bytes, or a fault. -/
def Network : Type :=
  List Char → Except { fault : Fault // fault.kind.isOfNetwork = true } (List UInt8)

/-- The network is out of reach. -/
def Network.unreachable : Network :=
  fun _ => .error ⟨Problem.unreachable.fault, rfl⟩

/-- The bytes that the network has at an address. -/
def Network.bytesAt (network : Network) (address : List Char) : Except Fault (List UInt8) :=
  (network address).mapError (·.1)

end SqlShell.Url
