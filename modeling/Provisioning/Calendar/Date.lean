/-!
# Days of the calendar

Dates of the Gregorian calendar, carried on into the past before its introduction; the year 0 comes
before the year 1. A day has a number, counted from the first of January 1970, and the two forms
determine each other. Years are counted from March inside, so that the leap day comes last.
-/

namespace Provisioning.Calendar

structure Date where
  year : Int
  month : Nat
  day : Nat
  deriving DecidableEq, Repr

def isLeapYear (year : Int) : Bool :=
  year % 4 == 0 && (year % 100 != 0 || year % 400 == 0)

def daysInMonth (year : Int) (month : Nat) : Nat :=
  if month = 2 then (if isLeapYear year then 29 else 28)
  else if month = 4 ∨ month = 6 ∨ month = 9 ∨ month = 11 then 30 else 31

namespace Date

/-- Whether the calendar has this day. -/
def isValid (d : Date) : Bool :=
  decide (1 ≤ d.month) && decide (d.month ≤ 12) && decide (1 ≤ d.day) &&
    decide (d.day ≤ daysInMonth d.year d.month)

/-- Days from the first of March of the year 0 to that of another year. -/
def daysBeforeMarch (year : Int) : Int :=
  365 * year + year / 4 - year / 100 + year / 400

/-- Days from the first of March to the first of a month, counted from March as 0. -/
def daysBeforeMonth (month : Nat) : Nat :=
  (153 * month + 2) / 5

/-- The days from the first of March of the year 0 to the first of January 1970. -/
def epoch : Int := 719468

/-- The number of a day, counted from the first of January 1970. -/
def dayNumber (d : Date) : Int :=
  let year := if d.month ≤ 2 then d.year - 1 else d.year
  let month := if d.month ≤ 2 then d.month + 9 else d.month - 3
  daysBeforeMarch year + daysBeforeMonth month + d.day - 1 - epoch

/-- The day with a number. -/
def ofDayNumber (n : Int) : Date :=
  let z := n + epoch
  let inEra := (z % 146097).toNat
  let yearOfEra := (inEra - inEra / 1460 + inEra / 36524 - inEra / 146096) / 365
  let inYear := inEra - (365 * yearOfEra + yearOfEra / 4 - yearOfEra / 100)
  let month := (5 * inYear + 2) / 153
  let year := z / 146097 * 400 + yearOfEra
  { year := if month < 10 then year else year + 1
    month := if month < 10 then month + 3 else month - 9
    day := inYear - daysBeforeMonth month + 1 }

/-- The day of the week, Sunday being 0. -/
def weekday (d : Date) : Nat :=
  ((d.dayNumber + 4) % 7).toNat

/-- The day of the week, Monday being 0. -/
def weekdayFromMonday (d : Date) : Nat :=
  (d.weekday + 6) % 7

/-- The days of the year that have passed before a day. -/
def dayOfYear (d : Date) : Nat :=
  (d.dayNumber - ({ year := d.year, month := 1, day := 1 } : Date).dayNumber).toNat

/-- The Thursday of the week, Monday to Sunday, that a day belongs to. -/
def thursday (d : Date) : Date :=
  ofDayNumber (d.dayNumber - d.weekdayFromMonday + 3)

/-- A week belongs to the year that its Thursday belongs to. -/
def weekYear (d : Date) : Int :=
  d.thursday.year

/-- The number of the week in its year, from 1 on. -/
def week (d : Date) : Nat :=
  d.thursday.dayOfYear / 7 + 1

/-- The Sundays of the year up to and including a day. -/
def sundays (d : Date) : Nat :=
  (d.dayOfYear + 7 - d.weekday) / 7

/-- The Mondays of the year up to and including a day. -/
def mondays (d : Date) : Nat :=
  (d.dayOfYear + 7 - d.weekdayFromMonday) / 7

def quarter (d : Date) : Nat :=
  (d.month - 1) / 3 + 1

def monthNames : List String :=
  ["January", "February", "March", "April", "May", "June", "July", "August", "September",
    "October", "November", "December"]

def weekdayNames : List String :=
  ["Sunday", "Monday", "Tuesday", "Wednesday", "Thursday", "Friday", "Saturday"]

def monthName (d : Date) : String :=
  monthNames.getD (d.month - 1) ""

def weekdayName (d : Date) : String :=
  weekdayNames.getD d.weekday ""

/-- The first three letters of a name. -/
def shortName (name : String) : String :=
  String.ofList (name.toList.take 3)

end Date

end Provisioning.Calendar
