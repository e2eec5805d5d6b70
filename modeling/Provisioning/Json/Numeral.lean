import Provisioning.Json.Basic

/-!
# Numbers in JSON

A number has no leading zeros. An integer that fits sixty-four bits, signed or not, stays an
integer; the integer `-0` and all others become doubles. Of a number's digits as many are kept as
fit sixty-four bits. The further ones before the point count as a power of ten, those behind it are
dropped.
-/

namespace Provisioning.Json

/-- The parts of a number as they are written. -/
structure Numeral where
  negative : Bool
  whole : List Char
  fraction : List Char
  exponent : Option Int

namespace Numeral

def digitsOf (cs : List Char) : List Char :=
  cs.takeWhile Char.isDigit

def digitValue (c : Char) : Nat :=
  c.toNat - 48

def natOf (ds : List Char) : Nat :=
  ds.foldl (fun n c => n * 10 + digitValue c) 0

/-- The largest natural number of sixty-four bits. -/
def maxWord : Nat := UInt64.size - 1

/-- Takes digits into a number as long as it fits sixty-four bits, and counts those left. -/
def gather (n : Nat) : List Char → Nat × Nat
  | [] => (n, 0)
  | d :: ds =>
    let next := n * 10 + digitValue d
    if next > maxWord then (n, ds.length + 1) else gather next ds

/-- The digits that are kept, and the power of ten that they are scaled by. -/
def scaled (n : Numeral) : Nat × Int :=
  let (kept, left) := gather 0 n.whole
  let (kept, dropped) := gather kept n.fraction
  (kept, (left : Int) - ((n.fraction.length - dropped : Nat) : Int))

def toDouble? (n : Numeral) : Option Double := do
  let (kept, scale) := n.scaled
  let size ← Double.ofScaled? kept (scale + n.exponent.getD 0)
  return size.withSign n.negative

/-- The value of a number; one too large for a double has none. -/
def toJson (n : Numeral) : Json :=
  let size := natOf n.whole
  if n.fraction.isEmpty && n.exponent.isNone &&
      (if n.negative then decide (0 < size) && decide (size ≤ Nat.pow 2 63)
        else decide (size ≤ maxWord))
  then .int (if n.negative then -(size : Int) else size)
  else match n.toDouble? with
    | some d => .double d
    | none => .unreadable

/-- The digits before the point: a zero alone, or digits that start with another one. -/
def whole? (cs : List Char) : Option (List Char × List Char) :=
  match digitsOf cs with
  | [] => none
  | ['0'] => some (['0'], cs.drop 1)
  | '0' :: _ => none
  | ds => some (ds, cs.drop ds.length)

def fraction? : List Char → Option (List Char × List Char)
  | '.' :: rest =>
    let ds := digitsOf rest
    if ds.isEmpty then none else some (ds, rest.drop ds.length)
  | rest => some ([], rest)

def exponentDigits? (negative : Bool) (cs : List Char) : Option (Option Int × List Char) :=
  let ds := digitsOf cs
  if ds.isEmpty then none
  else some (some (if negative then -(natOf ds : Int) else natOf ds), cs.drop ds.length)

def exponent? : List Char → Option (Option Int × List Char)
  | c :: rest =>
    if c = 'e' ∨ c = 'E' then
      match rest with
      | '-' :: rest => exponentDigits? true rest
      | '+' :: rest => exponentDigits? false rest
      | rest => exponentDigits? false rest
    else some (none, c :: rest)
  | [] => some (none, [])

def read? (cs : List Char) : Option (Numeral × List Char) := do
  let (negative, cs) := match cs with
    | '-' :: rest => (true, rest)
    | cs => (false, cs)
  let (whole, cs) ← whole? cs
  let (fraction, cs) ← fraction? cs
  let (exponent, cs) ← exponent? cs
  return ({ negative, whole, fraction, exponent }, cs)

end Numeral

end Provisioning.Json
