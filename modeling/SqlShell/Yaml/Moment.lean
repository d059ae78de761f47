import SqlShell.Value.Date
import SqlShell.Yaml.Cursor

/-!
The written form of dates and times: a day, and perhaps a time of it with a fraction of a second
and the distance of the local clock.
-/

namespace SqlShell.Yaml

/-- A time as it is written. -/
structure TimeFields where
  hour : Nat
  minute : Nat
  second : Nat
  fraction : List Char
  offset : Option Int

/-- A day as it is written, and the time if there is one. -/
structure MomentFields where
  year : Nat
  month : Nat
  day : Nat
  time : Option TimeFields

/-- The number that decimal digits stand for. -/
def decimalNumber (digits : List Char) : Nat :=
  digits.foldl (fun n c => n * 10 + (c.toNat - 0x30)) 0

/-- A number of so many digits at the start of a text, and the rest of it. -/
def takeNumber? (least most : Nat) (text : List Char) : Option (Nat × List Char) :=
  let digits := (text.take most).takeWhile Char.isDigit
  if least ≤ digits.length then some (decimalNumber digits, text.drop digits.length) else none

/-- The rest of a text after the given character. -/
def dropChar? (c : Char) : List Char → Option (List Char)
  | d :: rest => if d = c then some rest else none
  | [] => none

/-- The distance of a clock at the end of a time, in minutes. -/
def offsetFields? (text : List Char) : Option Int :=
  match text with
  | 'Z' :: rest => if rest.isEmpty then some 0 else none
  | sign :: rest => do
      if sign != '+' && sign != '-' then
        none
      let (hours, rest) ← takeNumber? 1 2 rest
      let minutes ←
        match rest with
        | [] => some 0
        | _ => do
            let (minutes, rest) ← takeNumber? 2 2 (← dropChar? ':' rest)
            if rest.isEmpty then some minutes else none
      let size : Int := hours * 60 + minutes
      return if sign = '-' then -size else size
  | [] => none

/-- The time after a day; blanks may stand before the distance of the clock. -/
def timeFields? (text : List Char) : Option TimeFields := do
  let (hour, text) ← takeNumber? 1 2 text
  let (minute, text) ← takeNumber? 2 2 (← dropChar? ':' text)
  let (second, text) ← takeNumber? 2 2 (← dropChar? ':' text)
  let (fraction, text) := match text with
    | '.' :: rest => (rest.takeWhile Char.isDigit, rest.dropWhile Char.isDigit)
    | _ => ([], text)
  if text.isEmpty then
    return ⟨hour, minute, second, fraction, none⟩
  else
    let offset ← offsetFields? (text.dropWhile fun c => c == ' ' || c == '\t')
    return ⟨hour, minute, second, fraction, some offset⟩

/-- The text between a day and a time: the letter T or blanks. -/
def dropTimeMark? : List Char → Option (List Char)
  | c :: rest =>
      if c = 'T' || c = 't' then some rest
      else if c = ' ' || c = '\t' then some (rest.dropWhile fun c => c == ' ' || c == '\t')
      else none
  | [] => none

/-- The fields of a text that is a date or a time. -/
def momentFields? (text : List Char) : Option MomentFields := do
  let (year, text) ← takeNumber? 4 4 text
  let (month, text) ← takeNumber? 1 2 (← dropChar? '-' text)
  let (day, text) ← takeNumber? 1 2 (← dropChar? '-' text)
  if text.isEmpty then
    return ⟨year, month, day, none⟩
  else
    return ⟨year, month, day, some (← timeFields? (← dropTimeMark? text))⟩

/-- The text is a date or a time without any mark that says so: a date alone has all its
digits.
-/
def isMoment (text : List Char) : Bool :=
  match momentFields? text with
  | some fields => fields.time.isSome || text.length == 10
  | none => false

/-- The fraction of a second in whole millionths; further digits are dropped. -/
def microseconds (fraction : List Char) : Nat :=
  let digits := fraction.take 6
  decimalNumber digits * Nat.pow 10 (6 - digits.length)

/-- The moment of a day and a time, or the first field outside its range. The distance of the
clock is looked at before the others.
-/
def TimeFields.moment (fields : TimeFields) (year month day : Nat)
    : Except DateProblem Moment := do
  match fields.offset with
  | some minutes => if 1440 ≤ minutes.natAbs then .error (.offset minutes)
  | none => pure ()
  let date ← Date.of year month day
  if 24 ≤ fields.hour then .error .hour
  if 60 ≤ fields.minute then .error .minute
  if 60 ≤ fields.second then .error .second
  return ⟨date, fields.hour, fields.minute, fields.second, microseconds fields.fraction,
    fields.offset⟩

end SqlShell.Yaml
