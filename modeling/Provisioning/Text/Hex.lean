/-!
# Base sixteen text

Bytes are written as pairs of lower-case digits, the high one first. Reading takes digits of either
case and names the first character that is none, by its byte offset; an odd number of bytes is
refused before any of them is looked at.
-/

namespace Provisioning.Text.Hex

/-- Why a text is not base sixteen. -/
inductive Flaw where
  | oddLength
  | badDigit (byte : UInt8) (offset : Nat)
  deriving DecidableEq, Repr

/-- The digit for a value below sixteen. -/
def digit (n : Nat) : Char :=
  if n < 10 then Char.ofNat (48 + n) else Char.ofNat (87 + n)

/-- The value of a digit of either case, given by its code. -/
def value? (code : Nat) : Option Nat :=
  if 48 ≤ code ∧ code ≤ 57 then some (code - 48)
  else if 97 ≤ code ∧ code ≤ 102 then some (code - 87)
  else if 65 ≤ code ∧ code ≤ 70 then some (code - 55)
  else none

/-- The two digits of a byte. -/
def digits (b : UInt8) : List Char :=
  [digit (b.toNat / 16), digit (b.toNat % 16)]

def encode (bytes : List UInt8) : String :=
  String.ofList (bytes.flatMap digits)

/-- The value of a byte taken as a digit. -/
def readDigit (b : UInt8) (offset : Nat) : Except Flaw Nat :=
  match value? b.toNat with
  | some v => .ok v
  | none => .error (.badDigit b offset)

/-- Reads pairs of digits; a digit left over at the end is the length's fault. -/
def decodePairs (offset : Nat) : List UInt8 → Except Flaw (List UInt8)
  | [] => .ok []
  | [_] => .error .oddLength
  | a :: b :: rest => do
    let high ← readDigit a offset
    let low ← readDigit b (offset + 1)
    let bytes ← decodePairs (offset + 2) rest
    return UInt8.ofNat (high * 16 + low) :: bytes

/-- Reads the bytes of a text as base sixteen. -/
def decode (text : List UInt8) : Except Flaw (List UInt8) :=
  if text.length % 2 = 1 then .error .oddLength else decodePairs 0 text

/-- The number written by base sixteen digits, the high one first. -/
def natOf? (cs : List Char) : Option Nat :=
  cs.foldl (fun n c => do return (← n) * 16 + (← value? c.toNat)) (some 0)

/-- The lowest `width` base sixteen digits of a number. -/
def ofNat : Nat → Nat → List Char
  | 0, _ => []
  | width + 1, n => ofNat width (n / 16) ++ [digit (n % 16)]

/-- The base sixteen digits of a number, without leading zeros. -/
def shortest (n : Nat) : List Char :=
  ofNat (n.log2 / 4 + 1) n

end Provisioning.Text.Hex
