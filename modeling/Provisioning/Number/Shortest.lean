import Provisioning.Number.Double

/-!
# The shortest decimal of a double

A finite double is written with the fewest digits that read back to it: of the decimals with that
many digits the nearest. Of two equally near ones it depends on the format which is taken.

As text the larger one is taken, and the digits are laid out positionally, whatever the exponent,
with no point behind an integer.

The numbers that read back to `m * 2 ^ q` lie between the midpoints to its two neighbours, which
count when `m` is even. Below a power of two the lower neighbour is half as far away.
-/

namespace Provisioning

/-- The number `digits * 10 ^ exponent`. -/
structure Decimal where
  digits : Nat
  exponent : Int
  deriving DecidableEq, Repr

/-- Which of two equally near decimals is taken. -/
inductive Tie where
  | larger
  | even
  deriving DecidableEq, Repr

namespace Decimal

/-- Compares `a * 10 ^ i` with `n * 2 ^ j`. -/
def compareScaled (a : Nat) (i : Int) (n : Nat) (j : Int) : Ordering :=
  compare (a * Nat.pow 10 i.toNat * Nat.pow 2 (-j).toNat)
    (n * Nat.pow 2 j.toNat * Nat.pow 10 (-i).toNat)

/-- Whether a decimal reads back to the size of a finite double. -/
def readsBack (d : Decimal) (x : Double) : Bool :=
  let m := x.significand
  let narrow := m == Nat.pow 2 52 && decide (x.exponent > -1074)
  let low := compareScaled d.digits d.exponent (if narrow then 4 * m - 1 else 4 * m - 2)
    (x.exponent - 2)
  let high := compareScaled d.digits d.exponent (4 * m + 2) (x.exponent - 2)
  let ends := m % 2 == 0
  (low == .gt || (ends && low == .eq)) && (high == .lt || (ends && high == .eq))

/-- The two neighbours of a double on the grid of multiples of `10 ^ e`. -/
def neighbours (x : Double) (e : Int) : Nat × Nat :=
  let below := x.num * Nat.pow 10 (-e).toNat / (x.den * Nat.pow 10 e.toNat)
  (below, below + 1)

/-- The nearer of the neighbours on a grid that reads back, if one does. -/
def onGrid? (tie : Tie) (x : Double) (e : Int) : Option Decimal :=
  let (a, b) := neighbours x e
  let low : Decimal := ⟨a, e⟩
  let high : Decimal := ⟨b, e⟩
  match low.readsBack x, high.readsBack x with
  | true, true =>
    let twice := 2 * x.num * Nat.pow 10 (-e).toNat
    let sum := (a + b) * (x.den * Nat.pow 10 e.toNat)
    match compare twice sum, tie with
    | .lt, _ => some low
    | .gt, _ => some high
    | .eq, .larger => some high
    | .eq, .even => some (if a % 2 = 0 then low else high)
  | true, false => some low
  | false, true => some high
  | false, false => none

/-- The least `k` with `x < 10 ^ k`, for a positive number. -/
def scale (x : Double) : Int :=
  let guess : Int := ((x.significand.log2 : Int) + x.exponent) * 30103 / 100000
  let above (k : Int) : Bool :=
    decide (x.num * Nat.pow 10 (-k).toNat < x.den * Nat.pow 10 k.toNat)
  if above (guess - 1) then guess - 1
  else if above guess then guess
  else if above (guess + 1) then guess + 1
  else guess + 2

/-- Drops zeros at the end of the digits. -/
def stripZeros (fuel : Nat) (d : Decimal) : Decimal :=
  match fuel with
  | 0 => d
  | fuel + 1 =>
    if d.digits % 10 = 0 ∧ d.digits ≠ 0 then stripZeros fuel ⟨d.digits / 10, d.exponent + 1⟩ else d

/-- The shortest decimal of a positive finite double; seventeen digits always read back. -/
def shortest (tie : Tie) (x : Double) : Decimal :=
  let k := scale x
  match (List.range 17).findSome? fun n => onGrid? tie x (k - (n + 1 : Nat)) with
  | some d => stripZeros 17 d
  | none => ⟨x.num * Nat.pow 5 (-x.exponent).toNat, -((-x.exponent).toNat : Int)⟩

/-- The digits with the point in its place. -/
def layout (d : Decimal) : String :=
  let ds := toString d.digits
  if 0 ≤ d.exponent then ds ++ String.ofList (List.replicate d.exponent.toNat '0')
  else
    let places := d.exponent.natAbs
    if ds.length ≤ places then
      "0." ++ String.ofList (List.replicate (places - ds.length) '0') ++ ds
    else
      String.ofList (ds.toList.take (ds.length - places)) ++ "." ++
        String.ofList (ds.toList.drop (ds.length - places))

end Decimal

/-- The text of a double: its shortest decimal, without an exponent. -/
def Double.text (d : Double) : String :=
  if d.isNaN then "NaN" else
  (if d.negative then "-" else "") ++
    if !d.isFinite then "inf" else if d.isZero then "0" else (Decimal.shortest .larger d).layout

end Provisioning
