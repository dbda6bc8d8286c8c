/-!
# Dates and times of day

Dates of the proleptic Gregorian calendar, with a time of day that has no offset.  Days are numbered from 1 for the
first day of the year 1, a Monday; weeks are counted from Sundays, from Mondays, or as ISO weeks, which belong to the
year that holds their Thursday.
-/

namespace ModelValidation

/-- A date and a time of day; nanoseconds beyond a billion belong to a leap second. -/
structure DateTime where
  year : Int
  month : Nat
  day : Nat
  hour : Nat
  minute : Nat
  second : Nat
  nanosecond : Nat
  deriving DecidableEq, Repr

namespace Calendar

/-- A year of 366 days. -/
def isLeap (year : Int) : Bool :=
  year % 4 = 0 && (year % 100 != 0 || year % 400 = 0)

/-- The days of a month. -/
def daysInMonth (year : Int) (month : Nat) : Nat :=
  match month with
  | 2 => if isLeap year then 29 else 28
  | 4 | 6 | 9 | 11 => 30
  | _ => 31

/-- The days before the first of January of a year. -/
def daysBeforeYear (year : Int) : Int :=
  let y := year - 1
  365 * y + y.fdiv 4 - y.fdiv 100 + y.fdiv 400

/-- The months from January to December. -/
def monthNames : List String :=
  ["January", "February", "March", "April", "May", "June", "July", "August", "September", "October", "November",
    "December"]

/-- The weekdays from Monday to Sunday. -/
def weekdayNames : List String :=
  ["Monday", "Tuesday", "Wednesday", "Thursday", "Friday", "Saturday", "Sunday"]

end Calendar

namespace DateTime

open Calendar

/-- The day within the year, from 1. -/
def ordinal (t : DateTime) : Nat :=
  (List.range (t.month - 1)).foldl (fun days k => days + daysInMonth t.year (k + 1)) t.day

/-- The number of the day. -/
def dayNumber (t : DateTime) : Int :=
  daysBeforeYear t.year + t.ordinal

/-- The days since the last Monday. -/
def weekday (t : DateTime) : Nat :=
  ((t.dayNumber - 1) % 7).toNat

/-- The weeks of the year that have begun, when weeks begin `start` days after Monday. -/
def weeksFrom (t : DateTime) (start : Nat) : Nat :=
  (t.ordinal + 6 - (t.weekday + 7 - start) % 7) / 7

/-- The Thursday of the week, as a day number. -/
def thursday (t : DateTime) : Int :=
  t.dayNumber - t.weekday + 3

/-- The year that the ISO week belongs to. -/
def isoYear (t : DateTime) : Int :=
  if t.thursday ≤ daysBeforeYear t.year then t.year - 1
  else if daysBeforeYear (t.year + 1) < t.thursday then t.year + 1
  else t.year

/-- The ISO week. -/
def isoWeek (t : DateTime) : Nat :=
  ((t.thursday - daysBeforeYear t.isoYear - 1) / 7 + 1).toNat

/-- The hour on a dial of twelve. -/
def hour12 (t : DateTime) : Nat :=
  if t.hour % 12 = 0 then 12 else t.hour % 12

/-- The seconds since the beginning of 1970, read as universal time. -/
def timestamp (t : DateTime) : Int :=
  (t.dayNumber - 1 - daysBeforeYear 1970) * 86400 + (t.hour * 3600 + t.minute * 60 + t.second)

end DateTime

end ModelValidation
