import ToolFlow.Text.Digits

/-!
# Dates and times of day

The proleptic Gregorian calendar from year 1 to year 9999, with offsets from universal time in whole
seconds.

Days are counted from the first day of year 1 (`Calendar.dayNumber`), and the date of a day is found
from a guess at its year (`Calendar.ofDayNumber`). The calendar repeats itself after four hundred
years, so days beyond its range can be given a year as well, where an error has to name it.

A date need not exist: `Calendar` also tells of a date or a time of day what is wrong with it, in
the words in which the attempt to make one fails. The texts of dates and moments are those of the
usual notation, with what stands between them and for the offset as arguments.
-/

namespace ToolFlow

/-- A day of the calendar. -/
structure Date where
  year : Nat
  month : Nat
  day : Nat
  deriving DecidableEq

/-- A moment: a day and a time of day, with an offset from universal time if one is known. -/
structure Moment where
  date : Date
  hour : Nat
  minute : Nat
  second : Nat
  microsecond : Nat
  offset : Option Int
  deriving DecidableEq

namespace Calendar

/-- Whether a year has a leap day. -/
def isLeap (year : Nat) : Bool :=
  year % 4 == 0 && (year % 100 != 0 || year % 400 == 0)

/-- How many days a month has. -/
def daysInMonth (year month : Nat) : Nat :=
  if month == 2 then (if isLeap year then 29 else 28)
  else if [4, 6, 9, 11].contains month then 30
  else 31

/-- The number of days before a year, counted from the first day of year 1. -/
def daysBeforeYear (year : Nat) : Nat :=
  let y := year - 1
  365 * y + y / 4 - y / 100 + y / 400

/-- The number of days before a month of a year. -/
def daysBeforeMonth (year month : Nat) : Nat :=
  (List.range (month - 1)).foldl (fun days m => days + daysInMonth year (m + 1)) 0

/-- The number of a day, counted from zero at the first day of year 1. -/
def dayNumber (d : Date) : Nat :=
  daysBeforeYear d.year + daysBeforeMonth d.year d.month + (d.day - 1)

/-- The month and day of the day of a year, from a month on. -/
def monthAndDay (year : Nat) : Nat → Nat → Nat → Nat × Nat
  | 0, month, day => (month, day + 1)
  | fuel + 1, month, day =>
    if day < daysInMonth year month then (month, day + 1)
    else monthAndDay year fuel (month + 1) (day - daysInMonth year month)

/-- The day of a number counted from zero at the first day of year 1. -/
def ofDayNumber (n : Nat) : Date :=
  let guess := n / 366 + 1
  let year := (List.range' guess (n / 365 + 2 - guess)).foldl
    (fun best y => if daysBeforeYear y ≤ n then y else best) guess
  let (month, day) := monthAndDay year 12 1 (n - daysBeforeYear year)
  { year, month, day }

/-- Why a date or a time does not exist, if it does not. -/
def dateProblem? (d : Date) : Option String :=
  if d.year == 0 || 9999 < d.year then some s!"year {d.year} is out of range"
  else if d.month == 0 || 12 < d.month then some "month must be in 1..12"
  else if d.day == 0 || daysInMonth d.year d.month < d.day then
    some "day is out of range for month"
  else none

/-- Why a moment does not exist, if it does not. -/
def momentProblem? (m : Moment) : Option String :=
  match dateProblem? m.date with
  | some problem => some problem
  | none =>
    if 23 < m.hour then some "hour must be in 0..23"
    else if 59 < m.minute then some "minute must be in 0..59"
    else if 59 < m.second then some "second must be in 0..59"
    else none

end Calendar

namespace Date

/-- The day as year, month and day with dashes. -/
def iso (d : Date) : String :=
  Text.paddedNumber 4 d.year ++ "-" ++ Text.paddedNumber 2 d.month ++ "-" ++
    Text.paddedNumber 2 d.day

end Date

namespace Moment

/-- The fraction of a second, in six digits, when there is one. -/
def fraction (m : Moment) : String :=
  if m.microsecond == 0 then "" else "." ++ Text.paddedNumber 6 m.microsecond

/-- The time of day. -/
def clock (m : Moment) : String :=
  Text.paddedNumber 2 m.hour ++ ":" ++ Text.paddedNumber 2 m.minute ++ ":" ++
    Text.paddedNumber 2 m.second ++ m.fraction

/-- An offset as sign, hours and minutes. -/
def offsetText (offset : Int) : String :=
  let minutes := offset.natAbs / 60
  (if offset < 0 then "-" else "+") ++ Text.paddedNumber 2 (minutes / 60) ++ ":" ++
    Text.paddedNumber 2 (minutes % 60)

/-- The moment with a separator between day and time; universal time is written by the given
text. -/
def text (separator universal : String) (m : Moment) : String :=
  let zone := match m.offset with
    | none => ""
    | some offset => if offset == 0 then universal else offsetText offset
  m.date.iso ++ separator ++ m.clock ++ zone

/-- The number of microseconds since the first moment of year 1, at the offset or at none. -/
def microseconds (m : Moment) : Int :=
  let seconds : Int := Calendar.dayNumber m.date * 86400 + m.hour * 3600 + m.minute * 60 + m.second
  (seconds - m.offset.getD 0) * 1000000 + m.microsecond

end Moment

end ToolFlow
