import SqlShell.Text.Pieces
import SqlShell.Yaml.Moment

/-!
The types of nodes: the one that a tag names, and the one that the form of a scalar without a
tag tells.
-/

namespace SqlShell.Yaml

/-- The type of a node. Keys of the type `merge` take over the entries of other mappings, and
`default` is the type of the scalar that stands for the value of its mapping.
-/
inductive Tag where
  | null
  | bool
  | int
  | float
  | binary
  | moment
  | orderedMap
  | pairs
  | set
  | text
  | sequence
  | mapping
  | merge
  | default
  | unknown
  deriving DecidableEq, Repr

/-- The start of the addresses of the standard types. -/
def standardAddress : String :=
  "tag:yaml.org,2002:"

/-- The names of the standard types. -/
def Tag.standard : List (String × Tag) := [
  ("null", .null), ("bool", .bool), ("int", .int), ("float", .float), ("binary", .binary),
  ("timestamp", .moment), ("omap", .orderedMap), ("pairs", .pairs), ("set", .set),
  ("str", .text), ("seq", .sequence), ("map", .mapping), ("merge", .merge), ("value", .default)
]

/-- The type with an address. -/
def Tag.ofAddress (address : String) : Tag :=
  match Tag.standard.find? (fun entry => standardAddress ++ entry.1 == address) with
  | some (_, tag) => tag
  | none => .unknown

namespace Scalar

/-- The characters are decimal digits or underscores, the first one a digit. -/
def isDigitGroup (text : List Char) : Bool :=
  text.head?.any Char.isDigit && text.all fun c => c.isDigit || c == '_'

/-- The characters are a number below sixty in one or two digits. -/
def isSixtieth (text : List Char) : Bool :=
  match text with
  | [d] => d.isDigit
  | [c, d] => '0' ≤ c && c ≤ '5' && d.isDigit
  | _ => false

/-- The text without a sign before it. -/
def unsigned : List Char → List Char
  | '-' :: rest => rest
  | '+' :: rest => rest
  | text => text

/-- The pieces are those of a number with base sixty. -/
def isSexagesimal : List (List Char) → Bool
  | first :: second :: rest => isDigitGroup first && (second :: rest).all isSixtieth
  | _ => false

/-- The text has the form of a whole number. -/
def isInt (text : List Char) : Bool :=
  match unsigned text with
  | ['0'] => true
  | '0' :: 'b' :: digits => !digits.isEmpty && digits.all fun c => c == '0' || c == '1' || c == '_'
  | '0' :: 'x' :: digits => !digits.isEmpty && digits.all fun c => isHexDigit c || c == '_'
  | '0' :: digits => digits.all fun c => ('0' ≤ c && c ≤ '7') || c == '_'
  | digits => isDigitGroup digits || isSexagesimal (Text.pieces ':' digits)

/-- The text is the exponent of a number with a point, which needs a sign, or is empty. -/
def isExponent : List Char → Bool
  | [] => true
  | mark :: sign :: digits =>
      (mark == 'e' || mark == 'E') && (sign == '-' || sign == '+') && !digits.isEmpty
        && digits.all Char.isDigit
  | _ => false

/-- The text has the form of a number with a point. -/
def isFloat (text : List Char) : Bool :=
  let number := unsigned text
  match Text.cutAt '.' number with
  | (_, none) => false
  | ([], some rest) =>
      let word := String.ofList rest
      if number.length == text.length then
        ["inf", "Inf", "INF", "nan", "NaN", "NAN"].contains word
          || (rest.head?.any Char.isDigit
            && isExponent (rest.dropWhile fun c => c.isDigit || c == '_'))
      else
        ["inf", "Inf", "INF"].contains word
  | (whole, some rest) =>
      let after := rest.dropWhile fun c => c.isDigit || c == '_'
      (isDigitGroup whole && isExponent after)
        || (isSexagesimal (Text.pieces ':' whole) && after.isEmpty)

/-- The words for truth values, in the three spellings that are read. -/
def boolWords : List String := [
  "yes", "Yes", "YES", "no", "No", "NO", "true", "True", "TRUE", "false", "False", "FALSE",
  "on", "On", "ON", "off", "Off", "OFF"
]

/-- The words for nothing. -/
def nullWords : List String :=
  ["~", "null", "Null", "NULL"]

/-- The type that the form of a text tells, if the text does not end with a line feed. -/
def lineTag? (text : List Char) : Option Tag :=
  let word := String.ofList text
  if boolWords.contains word then some .bool
  else if isFloat text then some .float
  else if isInt text then some .int
  else if word == "<<" then some .merge
  else if nullWords.contains word then some .null
  else if isMoment text then some .moment
  else if word == "=" then some .default
  else if word == "!" || word == "&" || word == "*" then some .unknown
  else none

/-- The type that the form of a text tells. A line feed at its end does not count, and the
empty text stands for nothing.
-/
def tagOf (text : List Char) : Tag :=
  if text.isEmpty then
    .null
  else
    let line := if text.getLast? == some '\n' then text.dropLast else text
    (lineTag? line).getD .text

example : tagOf "010".toList = .int := by decide +kernel
example : tagOf "1e3".toList = .text := by decide +kernel
example : tagOf "190:20:30.15".toList = .float := by decide +kernel

end Scalar

end SqlShell.Yaml
