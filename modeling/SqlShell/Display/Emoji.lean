import SqlShell.Display.EmojiNames
import SqlShell.Text.Blank
import SqlShell.Text.LowerCase
import SqlShell.Text.Pieces

/-!
Names of emoji in text: a name between two colons stands for the emoji. A name that no emoji has
is left as it is, together with its colons.
-/

namespace SqlShell.Emoji

open SqlShell.Text

/-- The endings of names for the tones of skin, each with the code of the character that gives an
emoji this tone.
-/
def tones : List (String × Nat) := [
  ("_light_skin_tone", 0x1F3FB), ("_medium-light_skin_tone", 0x1F3FC),
  ("_medium_skin_tone", 0x1F3FD), ("_medium-dark_skin_tone", 0x1F3FE),
  ("_dark_skin_tone", 0x1F3FF)
]

/-- The endings of names that ask for a form, each with the character that asks for it. -/
def forms : List (String × Char) :=
  [("-emoji", '\uFE0F'), ("-text", '\uFE0E')]

/-- The first of the endings that a text has, and the text before it. -/
def ending? {α : Type} (endings : List (String × α)) (text : List Char) :
    Option (List Char × α) :=
  endings.findSome? fun (ending, meaning) =>
    if ending.toList.isSuffixOf text then
      some (text.take (text.length - ending.length), meaning)
    else
      none

/-- The emoji that is listed under a name. -/
def listed? (name : List Char) : Option (List Char) :=
  (named.find? fun entry => (pieces ' ' entry.2.toList).contains name).map (·.1.toList)

/-- An emoji in a tone, which is given to its first character. -/
def inTone (tone : Char) : List Char → List Char
  | c :: '\uFE0F' :: rest => c :: tone :: rest
  | c :: rest => c :: tone :: rest
  | [] => []

/-- The emoji with a name. -/
def find? (name : List Char) : Option (List Char) :=
  (listed? name).or do
    let (base, tone) ← ending? tones name
    if toned.contains (String.ofList base) then
      (listed? base).map (inTone (Char.ofNat tone))
    else
      none

/-- What is shown for the text between two colons. -/
def shown (content : List Char) : List Char :=
  let (name, form) := match ending? forms content with
    | some (name, form) => (name, [form])
    | none => (content, [])
  match find? (toLower name) with
  | some emoji => emoji ++ form
  | none => ':' :: content ++ [':']

/-- The text between the colon before a text and the next one, if no blank stands there. -/
def content? (text : List Char) : Option (List Char) :=
  let content := text.takeWhile fun c => c != ':' && !isBlank c
  if (text.drop content.length).head? == some ':' then some content else none

/-- The text with emoji for their names. -/
def replaceNames (text : List Char) : List Char :=
  go 0 text
where
  go (skipped : Nat) : List Char → List Char
    | [] => []
    | c :: rest =>
        if 0 < skipped then
          go (skipped - 1) rest
        else if c = ':' then
          match content? rest with
          | some content => shown content ++ go (content.length + 1) rest
          | none => c :: go 0 rest
        else
          c :: go 0 rest

/-- A text without a colon holds no name. -/
theorem replaceNames_of_not_mem {text : List Char} (h : ':' ∉ text)
    : replaceNames text = text := by
  suffices go : ∀ text : List Char, ':' ∉ text → replaceNames.go 0 text = text from go text h
  intro text h
  induction text with
  | nil => rfl
  | cons c rest ih =>
      have hc : c ≠ ':' := fun e => h (by simp [e])
      have hr : ':' ∉ rest := fun e => h (by simp [e])
      simp [replaceNames.go, hc, ih hr]

example : replaceNames "a:b :AB: c".toList = "a:b 🆎 c".toList := by decide +kernel

end SqlShell.Emoji
