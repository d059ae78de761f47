/-!
Dates and times of the calendar, with their text and the order of moments.
-/

namespace SqlShell

/-- A day of the calendar. -/
structure Date where
  year : Nat
  month : Nat
  day : Nat
  deriving DecidableEq, Repr

/-- A moment: a day, a time of it, and the distance of the local clock in minutes if known. -/
structure Moment where
  date : Date
  hour : Nat
  minute : Nat
  second : Nat
  microsecond : Nat
  offset : Option Int
  deriving DecidableEq, Repr

/-- The fields of a date or moment that lie outside their range. -/
inductive DateProblem where
  | year (year : Nat)
  | month
  | day
  | hour
  | minute
  | second
  | offset (minutes : Int)
  deriving DecidableEq, Repr

/-- The year has a leap day. -/
def isLeapYear (year : Nat) : Bool :=
  year % 4 == 0 && (year % 100 != 0 || year % 400 == 0)

/-- The number of days of a month. -/
def daysInMonth (year month : Nat) : Nat :=
  if month == 2 then (if isLeapYear year then 29 else 28)
  else if month == 4 || month == 6 || month == 9 || month == 11 then 30
  else 31

/-- The number of days from the start of the calendar to the start of the date. -/
def Date.dayNumber (date : Date) : Nat :=
  let past := date.year - 1
  let inMonths :=
    (List.range (date.month - 1)).foldl (fun days m => days + daysInMonth date.year (m + 1)) 0
  past * 365 + past / 4 - past / 100 + past / 400 + inMonths + date.day

/-- The date of the fields, or the first field outside its range. -/
def Date.of (year month day : Nat) : Except DateProblem Date :=
  if year < 1 || 9999 < year then .error (.year year)
  else if month < 1 || 12 < month then .error .month
  else if day < 1 || daysInMonth year month < day then .error .day
  else .ok ⟨year, month, day⟩

/-- The number in decimal digits, padded with zeros to a width. -/
def paddedNumber (width n : Nat) : String :=
  let digits := Nat.toDigits 10 n
  String.ofList (List.replicate (width - digits.length) '0' ++ digits)

/-- The text of a date. -/
def Date.text (date : Date) : String :=
  paddedNumber 4 date.year ++ "-" ++ paddedNumber 2 date.month ++ "-" ++ paddedNumber 2 date.day

/-- The text of a clock's distance: its sign, hours and minutes. -/
def offsetText (minutes : Int) : String :=
  let size := minutes.natAbs
  (if minutes < 0 then "-" else "+") ++ paddedNumber 2 (size / 60) ++ ":"
    ++ paddedNumber 2 (size % 60)

/-- The text of a moment; the fraction of a second is left out if it is zero. -/
def Moment.text (moment : Moment) : String :=
  moment.date.text ++ " " ++ paddedNumber 2 moment.hour ++ ":" ++ paddedNumber 2 moment.minute
    ++ ":" ++ paddedNumber 2 moment.second
    ++ (if moment.microsecond == 0 then "" else "." ++ paddedNumber 6 moment.microsecond)
    ++ (moment.offset.map offsetText).getD ""

/-- The moment in microseconds of the clock without distance. -/
def Moment.instant (moment : Moment) : Int :=
  let minutes : Int := moment.date.dayNumber * 1440 + moment.hour * 60 + moment.minute
  ((minutes - moment.offset.getD 0) * 60 + moment.second) * 1000000 + moment.microsecond

end SqlShell
