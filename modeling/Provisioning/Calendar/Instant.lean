import Provisioning.Calendar.Date
import Provisioning.Text.Padded

/-!
# Instants and their stamps

An instant is kept as the seconds since 1970 began, on the scale of coordinated universal time, and
the nanoseconds after them. A leap second has no number of its own: it is the second before it with
a thousand million nanoseconds more.

A stamp writes date, time and zone, `2024-03-01T12:30:00Z`, with three, six or nine digits behind
the second when they are needed. The zone is written as `Z` or in full.
-/

namespace Provisioning.Calendar

structure Instant where
  seconds : Int
  nanos : Nat
  deriving DecidableEq, Repr

namespace Instant

open Provisioning.Text

/-- The nanoseconds of a second. -/
def nanosPerSecond : Nat := 1000000000

def date (t : Instant) : Date :=
  .ofDayNumber (t.seconds / 86400)

/-- The seconds of the day that have passed. -/
def secondOfDay (t : Instant) : Nat :=
  (t.seconds % 86400).toNat

def hour (t : Instant) : Nat :=
  t.secondOfDay / 3600

def minute (t : Instant) : Nat :=
  t.secondOfDay / 60 % 60

/-- The second as a clock shows it; in a leap second it is one more. -/
def second (t : Instant) : Nat :=
  t.secondOfDay % 60 + t.nanos / nanosPerSecond

/-- The nanoseconds after the second that a clock shows. -/
def fraction (t : Instant) : Nat :=
  t.nanos % nanosPerSecond

/-- Years are written with four digits; beyond those with a sign. -/
def yearText (year : Int) : String :=
  if 0 ≤ year ∧ year ≤ 9999 then zeroPadded 4 year.toNat
  else (if year < 0 then "-" else "+") ++ zeroPadded 4 year.natAbs

/-- The digits of a fraction of a second: none, three, six or nine of them. -/
def fractionText (nanos : Nat) : String :=
  if nanos = 0 then ""
  else if nanos % 1000000 = 0 then "." ++ zeroPadded 3 (nanos / 1000000)
  else if nanos % 1000 = 0 then "." ++ zeroPadded 6 (nanos / 1000)
  else "." ++ zeroPadded 9 nanos

/-- Date and time, without a zone. -/
def localText (t : Instant) : String :=
  yearText t.date.year ++ "-" ++ zeroPadded 2 t.date.month ++ "-" ++ zeroPadded 2 t.date.day ++
    "T" ++ zeroPadded 2 t.hour ++ ":" ++ zeroPadded 2 t.minute ++ ":" ++ zeroPadded 2 t.second ++
    fractionText t.fraction

/-- The stamp with a one-letter zone. -/
def stamp (t : Instant) : String :=
  t.localText ++ "Z"

/-- The stamp with its zone written out. -/
def text (t : Instant) : String :=
  t.localText ++ "+00:00"

/-- The years that dates can lie in. -/
def yearInRange (year : Int) : Bool :=
  decide (-262143 ≤ year) && decide (year ≤ 262142)

end Instant

end Provisioning.Calendar
