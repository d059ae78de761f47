import SqlShell.Display.ColorNames
import SqlShell.Number.Reading
import SqlShell.Text.LowerCase
import SqlShell.Text.Pieces

/-!
Styles and their names. A style is described by words in any order; its name lists what they say in
one order, so that two descriptions of the same style have the same name.
-/

namespace SqlShell

namespace Style

open SqlShell.Text

/-- A trait of a style, which may be on or off. -/
inductive Trait where
  | bold
  | dim
  | italic
  | underline
  | blink
  | fastBlink
  | reverse
  | conceal
  | strike
  | doubleUnderline
  | frame
  | encircle
  | overline
  deriving DecidableEq, Repr

/-- The traits in the order of names, each with its word and perhaps a short one. -/
def Trait.words : List (Trait × String × Option String) := [
  (.bold, "bold", some "b"), (.dim, "dim", some "d"), (.italic, "italic", some "i"),
  (.underline, "underline", some "u"), (.blink, "blink", none), (.fastBlink, "blink2", none),
  (.reverse, "reverse", some "r"), (.conceal, "conceal", some "c"),
  (.strike, "strike", some "s"), (.doubleUnderline, "underline2", some "uu"),
  (.frame, "frame", none), (.encircle, "encircle", none), (.overline, "overline", some "o")
]

/-- The trait with a word. -/
def Trait.ofWord? (word : List Char) : Option Trait :=
  let word := String.ofList word
  (words.find? fun (_, long, short) => long == word || short == some word).map (·.1)

end Style

/-- A style: the traits that it turns on or off, the colors of text and background by their
names, and an address that the text leads to.
-/
structure Style where
  traits : Style.Trait → Option Bool := fun _ => none
  color : Option (List Char) := none
  background : Option (List Char) := none
  link : Option (List Char) := none

namespace Style

open SqlShell.Text

/-- The name of a style. -/
def name (style : Style) : List Char :=
  let traits := Trait.words.filterMap fun (trait, word, _) =>
    (style.traits trait).map fun on => ((if on then "" else "not ") ++ word).toList
  let words := traits ++ style.color.toList
    ++ (style.background.map ("on ".toList ++ ·)).toList
    ++ (style.link.map ("link ".toList ++ ·)).toList
  if words.isEmpty then "none".toList else List.intercalate [' '] words

/-- A part of a color that is no number. -/
structure Problem where
  text : List Char
  problem : Number.Problem
  deriving DecidableEq, Repr

/-- The text between a word and brackets that follow it, if the brackets end the text. -/
def bracketed? (word : String) (text : List Char) : Option (List Char) :=
  let start := word.toList ++ ['(']
  if start.isPrefixOf text && text.getLast? == some ')' && start.length < text.length then
    some (text.drop start.length).dropLast
  else
    none

/-- The greatest number of a color, and of a part of one. -/
def greatestPart : Int := 255

/-- Three parts of a color by their numbers, in a text that holds digits and commas only. -/
def areParts (text : List Char) : Except Problem Bool := do
  if text.isEmpty || !text.all (fun c => isDigit c || c == ',') then
    return false
  let parts := pieces ',' text
  if parts.length != 3 then
    return false
  let numbers ← parts.mapM fun part => (Number.readInt 10 part).mapError (⟨part, ·⟩)
  return numbers.all (· ≤ greatestPart)

/-- The text is the number of a color. -/
def isColorNumber (text : List Char) : Bool :=
  !text.isEmpty && text.length ≤ 3 && text.all Char.isDigit
    && (Number.readInt 10 text).toOption.all (· ≤ greatestPart)

/-- The word, in lower case, is the name of a color. -/
def isColor (word : List Char) : Except Problem Bool :=
  let isHexDigit (c : Char) : Bool := c.isDigit || ('a' ≤ c && c ≤ 'f')
  if word == "default".toList || colorNames.contains (String.ofList word) then .ok true
  else if word.head? == some '#' then
    .ok (word.length == 7 && (word.drop 1).all isHexDigit)
  else
    match bracketed? "color" word, bracketed? "rgb" word with
    | some number, _ => .ok (isColorNumber number)
    | _, some parts => areParts parts
    | _, _ => .ok false

/-- The name of the color that a word stands for. -/
def colorOf? (word : List Char) : Except Problem (Option (List Char)) := do
  let word := toLower word
  return if ← isColor word then some word else none

/-- The style with a trait turned on or off. -/
def turn (style : Style) (trait : Trait) (on : Bool) : Style :=
  { style with
    traits := fun other => if other = trait then some on else style.traits other }

/-- The style that words describe, beyond what has been described already. Words may be in any case,
but not the one for a trait that is turned off.
-/
def ofWords? (style : Style) : List (List Char) → Except Problem (Option Style)
  | [] => .ok (some style)
  | word :: rest =>
      let lower := toLower word
      if lower == "on".toList then
        match rest with
        | [] => .ok none
        | color :: rest => do
            match ← colorOf? color with
            | none => return none
            | some color => ofWords? { style with background := some color } rest
      else if lower == "not".toList then
        match rest with
        | [] => .ok none
        | word :: rest =>
            match Trait.ofWord? word with
            | none => .ok none
            | some trait => ofWords? (style.turn trait false) rest
      else if lower == "link".toList then
        match rest with
        | [] => .ok none
        | address :: rest => ofWords? { style with link := some address } rest
      else
        match Trait.ofWord? lower with
        | some trait => ofWords? (style.turn trait true) rest
        | none => do
            match ← colorOf? word with
            | none => return none
            | some color => ofWords? { style with color := some color } rest

/-- The words of a text, which blanks separate. -/
def wordsOf (text : List Char) : List (List Char) :=
  (pieces ' ' (text.map fun c => if isBlank c then ' ' else c)).filter (!·.isEmpty)

/-- The name of the style that a text describes. A text that describes none is its own name in
lower case.
-/
def nameOf (text : List Char) : Except Problem (List Char) := do
  match ← ofWords? {} (wordsOf text) with
  | some style => return style.name
  | none => return toLower (trim text)

example : (nameOf "on blue  RED b".toList).toOption = some "bold red on blue".toList := by
  decide +kernel

end Style

end SqlShell
