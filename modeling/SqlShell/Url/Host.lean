import SqlShell.Text.Pieces
import SqlShell.Url.Percent

/-!
Hosts of addresses: numeric ones in brackets, and characters whose compatible form would break
an address into other parts.
-/

namespace SqlShell.Url

open SqlShell.Text (pieces cutAt)

/-- The character is a decimal digit of ASCII. -/
def isAsciiDigit (c : Char) : Bool :=
  0x30 ≤ c.toNat && c.toNat ≤ 0x39

/-- The text is a number from 0 to 255 without needless zeros. -/
def isOctet (text : List Char) : Bool :=
  !text.isEmpty && text.all isAsciiDigit && text.length ≤ 3
    && (text.length == 1 || text.head? != some '0')
    && text.foldl (fun n c => n * 10 + (c.toNat - 0x30)) 0 ≤ 255

/-- The text is a numeric address of the fourth version. -/
def isAddress4 (text : List Char) : Bool :=
  let octets := pieces '.' text
  octets.length == 4 && octets.all isOctet

/-- The text is a group of an address of the sixth version. -/
def isGroup (text : List Char) : Bool :=
  !text.isEmpty && text.length ≤ 4 && text.all fun c => (hexValue? c).isSome

/-- The groups make an address of the sixth version: eight groups, or fewer with one gap. -/
def areGroups (groups : List (List Char)) : Bool :=
  let inner := groups.dropLast.drop 1
  let gaps := inner.filter (·.isEmpty)
  if groups.length < 3 || 9 < groups.length || 1 < gaps.length then
    false
  else if gaps.isEmpty then
    groups.length == 8 && groups.all isGroup
  else
    let before := groups.take (inner.takeWhile (!·.isEmpty)).length.succ
    let after := groups.drop (before.length + 1)
    let high := if before.head? == some [] then before.drop 1 else before
    let low := if after.getLast? == some [] then after.dropLast else after
    (before.head? != some [] || high.isEmpty) && (after.getLast? != some [] || low.isEmpty)
      && high.length + low.length < 8 && high.all isGroup && low.all isGroup

/-- The text is a numeric address of the sixth version, perhaps with a zone. -/
def isAddress6 (text : List Char) : Bool :=
  let (address, zone) := cutAt '%' text
  let zoned := match zone with
    | none => true
    | some name => !name.isEmpty && !name.contains '%'
  let groups := pieces ':' address
  let last := groups.getLast?.getD []
  zoned && !text.contains '/'
    && (if last.contains '.' then
          3 ≤ groups.length && isAddress4 last && areGroups (groups.dropLast ++ [['0'], ['0']])
        else
          areGroups groups)

/-- The text is an address of a future version: its mark, a number, a point and more. -/
def isFutureAddress (text : List Char) : Bool :=
  match cutAt '.' (text.drop 1) with
  | (version, some rest) =>
      !version.isEmpty && version.all (fun c => (hexValue? c).isSome) && !rest.isEmpty
        && !rest.contains '\n'
  | _ => false

/-- The characters whose compatible form holds a character that separates the parts of an
address.
-/
def separatorForms : List Nat := [
  0x2047, 0x2048, 0x2049, 0x2100, 0x2101, 0x2105, 0x2106, 0x2A74, 0xFE13, 0xFE16, 0xFE55,
  0xFE56, 0xFE5F, 0xFE6B, 0xFF03, 0xFF0F, 0xFF1A, 0xFF1F, 0xFF20
]

/-- Some character of the host stands for a separator. -/
def hidesSeparator (host : List Char) : Bool :=
  host.any fun c => separatorForms.contains c.toNat

example : isAddress6 "::1".toList = true := by cbv
example : isAddress6 "1::2::3".toList = false := by cbv

end SqlShell.Url
