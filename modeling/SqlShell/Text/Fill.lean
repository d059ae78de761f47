import SqlShell.Text.Blank

/-!
Filling text into lines of a width: lines break at spaces and after hyphens inside words, and a
word that fits no line is cut.
-/

namespace SqlShell.Text

/-- The character is a letter of ASCII. -/
def isLetter (c : Char) : Bool :=
  c.isAlpha

/-- The parts of a word that may be parted after a hyphen: two letters stand before the hyphen
and two after it. The characters passed so far are given in reverse.
-/
def hyphenParts : List Char → List Char → List (List Char)
  | passed, [] => if passed.isEmpty then [] else [passed.reverse]
  | passed, c :: rest =>
      let before := (passed.take 2).length == 2 && (passed.take 2).all isLetter
      let after := (rest.take 2).length == 2 && (rest.take 2).all isLetter
      if c == '-' && before && after then
        (c :: passed).reverse :: hyphenParts [] rest
      else
        hyphenParts (c :: passed) rest

/-- The words of a text. -/
def words : List Char → List (List Char)
  | [] => []
  | c :: rest =>
      if isBlank c then
        words rest
      else
        match rest with
        | [] => [[c]]
        | d :: _ =>
            if isBlank d then
              [c] :: words rest
            else
              match words rest with
              | [] => [[c]]
              | word :: more => (c :: word) :: more

/-- The chunks of a text that lines are made of: parts of words, and a space between words. -/
def chunks (text : List Char) : List (List Char) :=
  (List.intersperse [[' ']] ((words text).map (hyphenParts []))).flatten

/-- Where a chunk is cut if so many places are left: after its last hyphen among them that has
other characters before it, else at the end of them.
-/
def cutPlace (space : Nat) (chunk : List Char) : Nat :=
  let shown := chunk.take space
  let after := shown.reverse.takeWhile (· != '-')
  let place := shown.length - after.length
  if space < chunk.length && 1 < place && (chunk.take (place - 1)).any (· != '-') then place
  else space

/-- Fills chunks into lines of a width, given the characters already on the line; `fuel` bounds
the number of steps. Blanks at the end of a line are dropped, except before a word that is cut.
-/
def fillChunks (width : Nat) : Nat → List Char → List (List Char) → List (List Char)
  | 0, line, _ => [line]
  | _, line, [] => if line.isEmpty then [] else [trimEnd line]
  | fuel + 1, line, chunk :: rest =>
      if line.isEmpty && chunk == [' '] then
        fillChunks width fuel line rest
      else if line.length + chunk.length ≤ width then
        fillChunks width fuel (line ++ chunk) rest
      else if width < chunk.length then
        let place := cutPlace (width - line.length) chunk
        (line ++ chunk.take place) :: fillChunks width fuel [] (chunk.drop place :: rest)
      else
        trimEnd line :: fillChunks width fuel [] (chunk :: rest)

/-- The lines of a text filled to a width, which is not zero. -/
def fill (width : Nat) (text : List Char) : List (List Char) :=
  fillChunks width (3 * text.length + 3) [] (chunks text)

end SqlShell.Text
