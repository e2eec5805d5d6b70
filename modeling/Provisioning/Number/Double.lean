/-!
# Binary64 numbers

A double is kept as its sixty-four bits, so that two doubles are equal as values of this type
exactly when their bits are; `same` is the comparison of the numbers, under which the two zeros are
alike and NaN differs from itself.

Arithmetic is exact, then rounded: a finite double is `m * 2 ^ q`, and `ofRatio` gives the double
nearest to a quotient, a tie going to the even neighbour.
-/

namespace Provisioning

structure Double where
  bits : UInt64
  deriving DecidableEq, Repr

namespace Double

/-- The bits of infinity, one above those of the largest finite double. -/
def infinityBits : Nat := 0x7FF0000000000000

/-- The bits without the sign. -/
def magnitude (d : Double) : Nat :=
  d.bits.toNat % Nat.pow 2 63

def negative (d : Double) : Bool :=
  decide (Nat.pow 2 63 ≤ d.bits.toNat)

def isNaN (d : Double) : Bool :=
  decide (infinityBits < d.magnitude)

def isFinite (d : Double) : Bool :=
  decide (d.magnitude < infinityBits)

def isZero (d : Double) : Bool :=
  d.magnitude == 0

/-- Equality of the numbers: NaN equals nothing, and the sign of zero does not count. -/
def same (a b : Double) : Bool :=
  !a.isNaN && !b.isNaN && (a.bits == b.bits || (a.isZero && b.isZero))

def ofMagnitude (negative : Bool) (magnitude : Nat) : Double :=
  ⟨UInt64.ofNat (if negative then Nat.pow 2 63 + magnitude else magnitude)⟩

/-- The integer `m` of a finite double `m * 2 ^ q`. -/
def significand (d : Double) : Nat :=
  if d.magnitude / Nat.pow 2 52 = 0 then d.magnitude
  else Nat.pow 2 52 + d.magnitude % Nat.pow 2 52

/-- The exponent `q` of a finite double `m * 2 ^ q`. -/
def exponent (d : Double) : Int :=
  if d.magnitude / Nat.pow 2 52 = 0 then -1074 else (d.magnitude / Nat.pow 2 52 : Nat) - 1075

/-- A quotient rounded to the nearest integer, a tie going to the even one. -/
def roundQuotient (num den : Nat) : Nat :=
  let q := num / den
  let r := num % den
  if 2 * r < den then q else if den < 2 * r then q + 1 else if q % 2 = 0 then q else q + 1

/-- The largest `k` with `2 ^ k ≤ num / den`, for positive numbers. -/
def binaryScale (num den : Nat) : Int :=
  let k : Int := (num.log2 : Int) - den.log2
  if den * Nat.pow 2 k.toNat ≤ num * Nat.pow 2 (-k).toNat then k else k - 1

/-- The double nearest to a quotient of naturals; beyond the largest finite one it is infinity. -/
def ofRatio (num den : Nat) : Double :=
  if num = 0 then ⟨0⟩ else
  let q := max (binaryScale num den - 52) (-1074)
  let m := roundQuotient (num * Nat.pow 2 (-q).toNat) (den * Nat.pow 2 q.toNat)
  ofMagnitude false (min ((q + 1074).toNat * Nat.pow 2 52 + m) infinityBits)

/-- The numerator of the size of a finite double. -/
def num (d : Double) : Nat :=
  d.significand * Nat.pow 2 d.exponent.toNat

/-- The denominator of the size of a finite double. -/
def den (d : Double) : Nat :=
  Nat.pow 2 (-d.exponent).toNat

def withSign (negative : Bool) (d : Double) : Double :=
  ofMagnitude negative d.magnitude

def ofInt (n : Int) : Double :=
  withSign (decide (n < 0)) (ofRatio n.natAbs 1)

/-- The product of two sizes, rounded. -/
def times (a b : Double) : Double :=
  ofRatio (a.num * b.num) (a.den * b.den)

/-- The quotient of two sizes, rounded. -/
def dividedBy (a b : Double) : Double :=
  ofRatio (a.num * b.den) (a.den * b.num)

/-- The double nearest to a power of ten. -/
def tenTo (k : Nat) : Double :=
  ofRatio (Nat.pow 10 k) 1

/-- Divides by `10 ^ k`, in steps of at most the largest power of ten that a double can hold. -/
def downBy (d : Double) (k : Nat) : Double :=
  if k ≤ 308 then d.dividedBy (tenTo k)
  else if d.isZero then d
  else downBy (d.dividedBy (tenTo 308)) (k - 308)
termination_by k

/-- The double for `significand * 10 ^ exponent`: the significand is rounded first, then multiplied
or divided by the power of ten. It is missing when the number is too large. -/
def ofScaled? (significand : Nat) (exponent : Int) : Option Double :=
  let d := ofRatio significand 1
  if exponent < 0 then some (d.downBy exponent.natAbs)
  else if d.isZero then some d
  else if exponent.natAbs > 308 then none
  else
    let product := d.times (tenTo exponent.natAbs)
    if product.isFinite then some product else none

end Double

end Provisioning
