import Provisioning.Calendar.Instant
import Provisioning.Text.Blank

/-!
# Reading stamps

A stamp is read leniently: white space may stand before each number, before the marks between the
numbers, around the zone and at the end; numbers need no leading zeros; and a year with a sign may
have any number of digits. Date and time are parted by `T` or a space, in the zone hours and
minutes by any run of colons and white space. What is written must be a day of the calendar, a time
of the day or a leap second, and an offset of less than a day.
-/

namespace Provisioning.Calendar

open Provisioning.Text

namespace Stamp

/-- The number that digits write. -/
def digitsValue (ds : List Char) : Nat :=
  ds.foldl (fun n c => n * 10 + (c.toNat - 48)) 0

/-- At least one and at most `width` digits at the start. -/
def digits? (width : Nat) (cs : List Char) : Option (List Char × List Char) :=
  let ds := (cs.take width).takeWhile Char.isDigit
  if ds.isEmpty then none else some (ds, cs.drop ds.length)

/-- A number of at most `width` digits, white space before it. -/
def number? (width : Nat) (cs : List Char) : Option (Nat × List Char) := do
  let (ds, rest) ← digits? width (dropLeading cs)
  return (digitsValue ds, rest)

/-- A year of at most four digits, or any digits after a sign. -/
def year? (cs : List Char) : Option (Int × List Char) :=
  match dropLeading cs with
  | '-' :: rest => do
    let (ds, rest) ← digits? rest.length rest
    return (-(digitsValue ds : Int), rest)
  | '+' :: rest => do
    let (ds, rest) ← digits? rest.length rest
    return ((digitsValue ds : Int), rest)
  | rest => do
    let (ds, rest) ← digits? 4 rest
    return ((digitsValue ds : Int), rest)

/-- A mark, white space before it. -/
def mark? (mark : Char) (cs : List Char) : Option (List Char) :=
  match dropLeading cs with
  | c :: rest => if c = mark then some rest else none
  | [] => none

def date? (cs : List Char) : Option (Date × List Char) := do
  let (year, cs) ← year? cs
  let cs ← mark? '-' cs
  let (month, cs) ← number? 2 cs
  let cs ← mark? '-' cs
  let (day, cs) ← number? 2 cs
  return ({ year := year, month := month, day := day }, cs)

/-- What parts date and time. -/
def separator? : List Char → Option (List Char)
  | 't' :: rest => some rest
  | 'T' :: rest => some rest
  | ' ' :: rest => some rest
  | _ => none

/-- The nanoseconds after a point; digits beyond the ninth are passed over. -/
def fraction? : List Char → Option (Nat × List Char)
  | '.' :: rest => do
    let (ds, rest) ← digits? 9 rest
    return (digitsValue ds * Nat.pow 10 (9 - ds.length), rest.dropWhile Char.isDigit)
  | rest => some (0, rest)

/-- The seconds of the day with the nanoseconds after them. -/
def time? (cs : List Char) : Option ((Nat × Nat) × List Char) := do
  let (hour, cs) ← number? 2 cs
  let cs ← mark? ':' cs
  let (minute, cs) ← number? 2 cs
  let cs ← mark? ':' cs
  let (second, cs) ← number? 2 cs
  let (nanos, cs) ← fraction? cs
  if hour < 24 ∧ minute < 60 ∧ second ≤ 60 then
    let leap := if second = 60 then 1 else 0
    return ((hour * 3600 + minute * 60 + second - leap, nanos + leap * Instant.nanosPerSecond), cs)
  else none

/-- Exactly two digits. -/
def pair? : List Char → Option (Nat × List Char)
  | a :: b :: rest => if a.isDigit && b.isDigit then some (digitsValue [a, b], rest) else none
  | _ => none

/-- Whether an offset is west of the meridian, by its sign. -/
def west? : List Char → Option (Bool × List Char)
  | '+' :: rest => some (false, rest)
  | '-' :: rest => some (true, rest)
  | '\u2212' :: rest => some (true, rest)
  | _ => none

/-- The seconds of an offset of hours and minutes. -/
def offset? (cs : List Char) : Option (Int × List Char) := do
  let (west, cs) ← west? cs
  let (hours, cs) ← pair? cs
  let (minutes, cs) ← pair? (cs.dropWhile fun c => c == ':' || isWhiteSpace c)
  if minutes < 60 ∧ hours < 24 then
    let seconds : Int := (hours * 3600 + minutes * 60 : Nat)
    return (if west then -seconds else seconds, cs)
  else none

/-- The zone: `Z`, `UTC` or an offset. -/
def zone? (cs : List Char) : Option (Int × List Char) :=
  match dropLeading cs with
  | 'Z' :: rest => some (0, rest)
  | 'z' :: rest => some (0, rest)
  | a :: b :: c :: rest =>
    if [a, b, c].map Char.toUpper = ['U', 'T', 'C'] then some (0, rest)
    else offset? (a :: b :: c :: rest)
  | rest => offset? rest

/-- The instant of a date and a time of day at an offset. -/
def instant? (date : Date) (secondOfDay nanos : Nat) (offset : Int) : Option Instant :=
  let t : Instant := ⟨date.dayNumber * 86400 + secondOfDay - offset, nanos⟩
  if date.isValid && Instant.yearInRange date.year && Instant.yearInRange t.date.year then some t
  else none

end Stamp

/-- Reads a stamp. -/
def Instant.ofText? (s : String) : Option Instant := do
  let (date, cs) ← Stamp.date? s.toList
  let cs ← Stamp.separator? cs
  let ((second, nanos), cs) ← Stamp.time? cs
  let (offset, cs) ← Stamp.zone? cs
  if (dropLeading cs).isEmpty then Stamp.instant? date second nanos offset else none

end Provisioning.Calendar
