import Provisioning.Calendar.Instant

/-!
# Date patterns

A pattern is text with fields in it, each a percent sign and a letter. A number can be told to be
padded otherwise by a mark before its letter: `-` for no padding, `_` for spaces, `0` for zeros.
Some letters stand for several fields. A pattern with an unknown or unfinished field is invalid and
prints nothing.
-/

namespace Provisioning.Calendar

open Provisioning.Text

/-- What stands before the digits of a short number. -/
inductive Padding where
  | none
  | space
  | zero
  deriving DecidableEq, Repr

/-- A number that a pattern can show. -/
inductive NumberField where
  | year
  | century
  | yearOfCentury
  | weekYear
  | weekYearOfCentury
  | quarter
  | month
  | day
  | sundays
  | mondays
  | week
  | weekday
  | weekdayFromMonday
  | dayOfYear
  | hour
  | hourOfHalf
  | minute
  | second
  | nanos
  | timestamp
  deriving DecidableEq, Repr

/-- How precisely the offset of the zone is shown. -/
inductive OffsetStyle where
  | plain
  | colon
  | seconds
  | hours
  deriving DecidableEq, Repr

/-- A piece of a pattern. -/
inductive Field where
  | literal (text : String)
  | number (field : NumberField) (padding : Padding)
  | shortMonth
  | month
  | shortWeekday
  | weekday
  | half (upper : Bool)
  | fraction
  | fixedFraction (dot : Bool) (digits : Nat)
  | offset (style : OffsetStyle)
  | zone
  | stamp
  deriving DecidableEq, Repr

namespace Pattern

/-- Two digits; a leading zero gives way to the padding. Ten tens and more go on in the order of the
characters. -/
def two (n : Nat) (padding : Padding) : String :=
  let ones := String.singleton (Char.ofNat (48 + n % 10))
  match n / 10, padding with
  | 0, .none => ones
  | 0, .space => " " ++ ones
  | tens, _ => String.singleton (Char.ofNat (48 + tens)) ++ ones

/-- A number with a sign where one is needed or asked for. -/
def wide (width : Nat) (n : Int) (padding : Padding) (signed : Bool) : String :=
  let sign := if n < 0 then "-" else if signed then "+" else ""
  let width := if signed then width + 1 else width
  let digits := toString n.natAbs
  match padding with
  | .none => sign ++ digits
  | .space => padded ' ' width (sign ++ digits)
  | .zero => sign ++ padded '0' (width - sign.length) digits

/-- A year; outside the years of four digits it has a sign. -/
def year (n : Int) (padding : Padding) : String :=
  wide 4 n padding (decide (n < 0) || decide (9999 < n))

/-- The hour on a clock of twelve hours. -/
def hourOfHalf (hour : Nat) : Nat :=
  if hour % 12 = 0 then 12 else hour % 12

def number (t : Instant) (padding : Padding) : NumberField → String
  | .year => year t.date.year padding
  | .century => two (t.date.year / 100 % 256).toNat padding
  | .yearOfCentury => two (t.date.year % 100).toNat padding
  | .weekYear => year t.date.weekYear padding
  | .weekYearOfCentury => two (t.date.weekYear % 100).toNat padding
  | .quarter => toString t.date.quarter
  | .month => two t.date.month padding
  | .day => two t.date.day padding
  | .sundays => two t.date.sundays padding
  | .mondays => two t.date.mondays padding
  | .week => two t.date.week padding
  | .weekday => toString t.date.weekday
  | .weekdayFromMonday => toString (t.date.weekdayFromMonday + 1)
  | .dayOfYear => wide 3 (t.date.dayOfYear + 1) padding false
  | .hour => two t.hour padding
  | .hourOfHalf => two (hourOfHalf t.hour) padding
  | .minute => two t.minute padding
  | .second => two t.second padding
  | .nanos => wide 9 t.fraction padding false
  | .timestamp => wide 9 t.seconds padding false

/-- Instants are shown in universal time, so that the offset is zero. -/
def offset : OffsetStyle → String
  | .plain => "+0000"
  | .colon => "+00:00"
  | .seconds => "+00:00:00"
  | .hours => "+00"

def half (t : Instant) (upper : Bool) : String :=
  match decide (t.hour < 12), upper with
  | true, true => "AM"
  | true, false => "am"
  | false, true => "PM"
  | false, false => "pm"

def field (t : Instant) : Field → String
  | .literal text => text
  | .number f padding => number t padding f
  | .shortMonth => Date.shortName t.date.monthName
  | .month => t.date.monthName
  | .shortWeekday => Date.shortName t.date.weekdayName
  | .weekday => t.date.weekdayName
  | .half upper => half t upper
  | .fraction => Instant.fractionText t.fraction
  | .fixedFraction dot digits =>
    (if dot then "." else "") ++ zeroPadded digits (t.fraction / Nat.pow 10 (9 - digits))
  | .offset style => offset style
  | .zone => "UTC"
  | .stamp => t.text

/-- The number a letter stands for, with its usual padding. -/
def numberOf? : Char → Option (NumberField × Padding)
  | 'Y' => some (.year, .zero)
  | 'C' => some (.century, .zero)
  | 'y' => some (.yearOfCentury, .zero)
  | 'G' => some (.weekYear, .zero)
  | 'g' => some (.weekYearOfCentury, .zero)
  | 'q' => some (.quarter, .none)
  | 'm' => some (.month, .zero)
  | 'd' => some (.day, .zero)
  | 'e' => some (.day, .space)
  | 'U' => some (.sundays, .zero)
  | 'W' => some (.mondays, .zero)
  | 'V' => some (.week, .zero)
  | 'w' => some (.weekday, .none)
  | 'u' => some (.weekdayFromMonday, .none)
  | 'j' => some (.dayOfYear, .zero)
  | 'H' => some (.hour, .zero)
  | 'k' => some (.hour, .space)
  | 'I' => some (.hourOfHalf, .zero)
  | 'l' => some (.hourOfHalf, .space)
  | 'M' => some (.minute, .zero)
  | 'S' => some (.second, .zero)
  | 'f' => some (.nanos, .zero)
  | 's' => some (.timestamp, .none)
  | _ => none

def num (f : NumberField) : Field :=
  .number f .zero

/-- Hour, minute and second. -/
def clock : List Field :=
  [num .hour, .literal ":", num .minute, .literal ":", num .second]

/-- Month, day and year of the century. -/
def slashed : List Field :=
  [num .month, .literal "/", num .day, .literal "/", num .yearOfCentury]

/-- The fields that a letter other than a number's stands for. -/
def fieldsOf? : Char → Option (List Field)
  | '%' => some [.literal "%"]
  | 'n' => some [.literal "\n"]
  | 't' => some [.literal "\t"]
  | 'b' => some [.shortMonth]
  | 'h' => some [.shortMonth]
  | 'B' => some [.month]
  | 'a' => some [.shortWeekday]
  | 'A' => some [.weekday]
  | 'p' => some [.half true]
  | 'P' => some [.half false]
  | 'z' => some [.offset .plain]
  | 'Z' => some [.zone]
  | '+' => some [.stamp]
  | 'D' => some slashed
  | 'x' => some slashed
  | 'F' => some [num .year, .literal "-", num .month, .literal "-", num .day]
  | 'v' => some [.number .day .space, .literal "-", .shortMonth, .literal "-", num .year]
  | 'R' => some [num .hour, .literal ":", num .minute]
  | 'T' => some clock
  | 'X' => some clock
  | 'r' =>
    some [num .hourOfHalf, .literal ":", num .minute, .literal ":", num .second, .literal " ",
      .half true]
  | 'c' =>
    some ([.shortWeekday, .literal " ", .shortMonth, .literal " ", .number .day .space,
      .literal " "] ++ clock ++ [.literal " ", num .year])
  | _ => none

/-- What follows a percent sign: its fields and the number of characters they take. -/
def fields? : List Char → Option (List Field × Nat)
  | ':' :: 'z' :: _ => some ([.offset .colon], 2)
  | ':' :: ':' :: 'z' :: _ => some ([.offset .seconds], 3)
  | ':' :: ':' :: ':' :: 'z' :: _ => some ([.offset .hours], 4)
  | '.' :: 'f' :: _ => some ([.fraction], 2)
  | '.' :: '3' :: 'f' :: _ => some ([.fixedFraction true 3], 3)
  | '.' :: '6' :: 'f' :: _ => some ([.fixedFraction true 6], 3)
  | '.' :: '9' :: 'f' :: _ => some ([.fixedFraction true 9], 3)
  | '3' :: 'f' :: _ => some ([.fixedFraction false 3], 2)
  | '6' :: 'f' :: _ => some ([.fixedFraction false 6], 2)
  | '9' :: 'f' :: _ => some ([.fixedFraction false 9], 2)
  | '-' :: c :: _ => (numberOf? c).map fun f => ([.number f.1 .none], 2)
  | '_' :: c :: _ => (numberOf? c).map fun f => ([.number f.1 .space], 2)
  | '0' :: c :: _ => (numberOf? c).map fun f => ([.number f.1 .zero], 2)
  | c :: _ =>
    match numberOf? c with
    | some f => some ([.number f.1 f.2], 1)
    | none => (fieldsOf? c).map fun fs => (fs, 1)
  | [] => none

/-- Reads the characters after the first `skip`, which belong to the field before. -/
def readFrom? (skip : Nat) : List Char → Option (List Field)
  | [] => some []
  | c :: rest =>
    match skip with
    | n + 1 => readFrom? n rest
    | 0 =>
      if c = '%' then do
        let (fields, taken) ← fields? rest
        return fields ++ (← readFrom? taken rest)
      else do
        return .literal (String.singleton c) :: (← readFrom? 0 rest)

/-- The fields of a pattern, unless it is invalid. -/
def read? (pattern : String) : Option (List Field) :=
  readFrom? 0 pattern.toList

/-- Whether every field of a pattern is known. -/
def isValid (pattern : String) : Bool :=
  (read? pattern).isSome

/-- An instant as a pattern shows it. -/
def show? (pattern : String) (t : Instant) : Option String := do
  return String.join ((← read? pattern).map (field t))

end Pattern

/-- An instant as a pattern shows it; an invalid pattern shows nothing. -/
def Instant.shown (t : Instant) (pattern : String) : String :=
  (Pattern.show? pattern t).getD ""

end Provisioning.Calendar
