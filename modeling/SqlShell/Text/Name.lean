import SqlShell.Text.NameRanges
import SqlShell.Text.Printable

/-!
Names and words: which characters start a name, which go on in it, and which are parts of words.
-/

namespace SqlShell.Text

/-- The code points from here on are beyond ASCII. -/
def asciiEnd : Nat := 0x80

/-- A name may start with the character. -/
def startsName (c : Char) : Bool :=
  if c.toNat < asciiEnd then c.isAlpha || c == '_' else inRanges letterRanges c.toNat

/-- The character may stand in a name after its first one. -/
def continuesName (c : Char) : Bool :=
  startsName c || (if c.toNat < asciiEnd then c.isDigit else inRanges inNameRanges c.toNat)

/-- The characters with which names may start although they are no parts of words. -/
def signNameRanges : List (Nat × Nat) := [
  (0x1885, 0x1886), (0x2118, 0x2118), (0x212E, 0x212E)
]

/-- The character is part of a word: a letter, a digit, a number or the low line. -/
def isWordChar (c : Char) : Bool :=
  if c.toNat < asciiEnd then continuesName c
  else
    (inRanges letterRanges c.toNat && !inRanges signNameRanges c.toNat)
      || inRanges numberRanges c.toNat

/-- Every letter and digit of ASCII is part of a word and may stand in a name. -/
theorem isWordChar_of_isAlphanum {c : Char} (h : c.isAlphanum = true) (hc : c.toNat < asciiEnd)
    : isWordChar c = true ∧ continuesName c = true := by
  have : continuesName c = true := by
    simp only [Char.isAlphanum, Bool.or_eq_true] at h
    rcases h with h | h <;> simp [continuesName, startsName, hc, h]
  exact ⟨by simp [isWordChar, hc, this], this⟩

example : ("aé_1·".toList.map startsName) = [true, true, true, false, false] := by decide +kernel
example : ("aé_1·".toList.map continuesName) = [true, true, true, true, true] := by
  decide +kernel

end SqlShell.Text
