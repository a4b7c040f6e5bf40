import CaptureForest.Text.Layout
/-!
# Calendar

Dates of the Gregorian calendar, times of day, and their texts.
-/

namespace CaptureForest

namespace Calendar

def isLeap (year : Int) : Bool := year % 4 == 0 && (year % 100 != 0 || year % 400 == 0)

def daysInMonth (year : Int) (month : Nat) : Nat :=
  match month with
  | 2 => if isLeap year then 29 else 28
  | 4 | 6 | 9 | 11 => 30
  | _ => 31

/-- A date. Months and days are counted from one, and before the year one there is the year zero. -/
structure Date where
  year : Int
  month : Nat
  day : Nat
deriving DecidableEq, Repr, Inhabited

structure TimeOfDay where
  hour : Nat
  minute : Nat
  second : Nat
  microsecond : Nat := 0
deriving DecidableEq, Repr, Inhabited

/-- The digits of a number, with zeros before it up to a width. -/
def padded (width n : Nat) : String :=
  let digits := toString n
  Text.repeated (width - digits.length) '0' ++ digits

namespace Date

/-- The date that is a number of days after the first of January 1970. -/
def ofDays (days : Int) : Date :=
  -- days are counted from the first of March of the year 0, in cycles of 400 years
  let shifted := days + 719468
  let cycle := shifted.fdiv 146097
  let dayOfCycle := (shifted.fmod 146097).toNat
  let yearOfCycle := (dayOfCycle - dayOfCycle / 1460 + dayOfCycle / 36524 - dayOfCycle / 146096) / 365
  let dayOfYear := dayOfCycle - (365 * yearOfCycle + yearOfCycle / 4 - yearOfCycle / 100)
  let monthFromMarch := (5 * dayOfYear + 2) / 153
  let day := dayOfYear - (153 * monthFromMarch + 2) / 5 + 1
  let month := if monthFromMarch < 10 then monthFromMarch + 3 else monthFromMarch - 9
  ⟨(yearOfCycle : Int) + cycle * 400 + (if month ≤ 2 then 1 else 0), month, day⟩

/-- The month and the day. -/
def dayText (d : Date) : String := padded 2 d.month ++ "-" ++ padded 2 d.day

/-- A date with a year of four digits. -/
def text (d : Date) : String := padded 4 d.year.toNat ++ "-" ++ d.dayText

/-- A date with no more digits in its year than there are. -/
def briefText (d : Date) : String := toString d.year ++ "-" ++ d.dayText

/-- The complaint about a year that has no dates. -/
def yearProblem (year : Int) : String := "year " ++ toString year ++ " is out of range"

/-- What is wrong with the numbers of a date. -/
def problem? (d : Date) : Option String :=
  if d.year < 1 || 9999 < d.year then some (yearProblem d.year)
  else if d.month = 0 || 12 < d.month then some "month must be in 1..12"
  else if d.day = 0 || daysInMonth d.year d.month < d.day then some "day is out of range for month"
  else none

end Date

namespace TimeOfDay

/-- The time that is a number of seconds after midnight. -/
def ofSeconds (seconds : Nat) (microsecond : Nat := 0) : TimeOfDay :=
  ⟨seconds / 3600, seconds / 60 % 60, seconds % 60, microsecond⟩

/-- Hours, minutes and seconds, with the fraction of a second if there is one. -/
def text (t : TimeOfDay) : String :=
  padded 2 t.hour ++ ":" ++ padded 2 t.minute ++ ":" ++ padded 2 t.second ++
    if t.microsecond = 0 then "" else "." ++ padded 6 t.microsecond

/-- What is wrong with the numbers of a time. -/
def problem? (t : TimeOfDay) : Option String :=
  if 23 < t.hour then some "hour must be in 0..23"
  else if 59 < t.minute then some "minute must be in 0..59"
  else if 59 < t.second then some "second must be in 0..59"
  else none

end TimeOfDay

end Calendar

end CaptureForest
