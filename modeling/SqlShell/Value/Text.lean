import SqlShell.Fault
import SqlShell.Number.Reading
import SqlShell.Number.Shortest
import SqlShell.Value.Basic
import SqlShell.Text.Quoted

/-!
The texts of values: as they are shown on their own, and as they are shown inside a list or a
map, where texts stand in quotes. A value that holds too long a number is not shown at all.
-/

namespace SqlShell

/-- The text of a span of minutes as days and seconds, without the parts that are zero. -/
def spanText (minutes : Int) : String :=
  let days := minutes.fdiv 1440
  let seconds := minutes.fmod 1440 * 60
  let parts := (if days == 0 then [] else ["days=" ++ toString days])
    ++ (if seconds == 0 then [] else ["seconds=" ++ toString seconds])
  "datetime.timedelta(" ++ (if parts.isEmpty then "0" else ", ".intercalate parts) ++ ")"

/-- The text of the distance of a clock inside a list or a map. -/
def zoneText (minutes : Int) : String :=
  if minutes == 0 then "datetime.timezone.utc" else "datetime.timezone(" ++ spanText minutes ++ ")"

/-- The numbers of a date, separated by commas. -/
def Date.numbers (date : Date) : List String :=
  [toString date.year, toString date.month, toString date.day]

/-- The text of a moment inside a list or a map; trailing zeros of the time are left out. -/
def Moment.nestedText (moment : Moment) : String :=
  let seconds :=
    if moment.microsecond != 0 then [toString moment.second, toString moment.microsecond]
    else if moment.second != 0 then [toString moment.second]
    else []
  let numbers := moment.date.numbers ++ [toString moment.hour, toString moment.minute] ++ seconds
  let zone := (moment.offset.map fun minutes => ["tzinfo=" ++ zoneText minutes]).getD []
  "datetime.datetime(" ++ ", ".intercalate (numbers ++ zone) ++ ")"

/-- The text of a truth value. -/
def boolText (b : Bool) : String :=
  if b then "True" else "False"

mutual

/-- The text of a value inside a list or a map. -/
def Value.nestedText : Value → String
  | .null => "None"
  | .bool b => boolText b
  | .int n => toString n
  | .float x => x.text
  | .notNumber => Binary64.nan.text
  | .text s => String.ofList (Text.quoted s.toList)
  | .bytes data => String.ofList (Text.quotedBytes data)
  | .date day => "datetime.date(" ++ ", ".intercalate day.numbers ++ ")"
  | .moment time => time.nestedText
  | .list items => "[" ++ ", ".intercalate (Value.itemTexts items) ++ "]"
  | .pair first second => "(" ++ first.nestedText ++ ", " ++ second.nestedText ++ ")"
  | .set items =>
      if items.isEmpty then "set()"
      else "\x7b" ++ ", ".intercalate (Value.itemTexts items) ++ "\x7d"
  | .map entries => "\x7b" ++ ", ".intercalate (Value.entryTexts entries) ++ "\x7d"
  | .again isMap => if isMap then "\x7b...\x7d" else "[...]"

/-- The texts of the items of a list. -/
def Value.itemTexts : List Value → List String
  | [] => []
  | item :: rest => item.nestedText :: Value.itemTexts rest

/-- The texts of the entries of a map. -/
def Value.entryTexts : List (Value × Value) → List String
  | [] => []
  | (key, value) :: rest =>
      (key.nestedText ++ ": " ++ value.nestedText) :: Value.entryTexts rest

end

mutual

/-- The whole numbers of a value have no more digits than are written. -/
def Value.isWritable : Value → Bool
  | .int n => n.natAbs < Nat.pow 10 Number.mostDigits
  | .list items => Value.areWritable items
  | .pair first second => first.isWritable && second.isWritable
  | .set items => Value.areWritable items
  | .map entries => Value.entriesAreWritable entries
  | _ => true

/-- The items of a list are writable. -/
def Value.areWritable : List Value → Bool
  | [] => true
  | item :: rest => item.isWritable && Value.areWritable rest

/-- The entries of a map are writable. -/
def Value.entriesAreWritable : List (Value × Value) → Bool
  | [] => true
  | (key, value) :: rest => key.isWritable && value.isWritable && Value.entriesAreWritable rest

end

/-- The text of a value on its own: texts, dates and moments stand as they are. -/
def Value.plainText : Value → String
  | .text s => s
  | .date day => day.text
  | .moment time => time.text
  | value => value.nestedText

/-- The failure of a value with a number that is too long. -/
def Value.unwritable : Fault :=
  { kind := .value .general, message := Number.lengthMessage "" }

/-- The text of a value on its own, if it can be written. -/
def Value.shown (value : Value) : Except Fault String :=
  if value.isWritable then .ok value.plainText else .error Value.unwritable

end SqlShell
