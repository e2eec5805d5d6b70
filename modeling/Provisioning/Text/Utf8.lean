/-!
# Text as UTF-8 bytes

Reading stops at the first byte sequence that is no character and says where it starts. A sequence
that the text ends inside of is incomplete; any other flaw tells how many bytes can belong to no
character: the longest run that starts as a character does.
-/

namespace Provisioning.Text.Utf8

/-- Why bytes are not UTF-8. -/
inductive Flaw where
  | invalid (length start : Nat)
  | incomplete (start : Nat)
  deriving DecidableEq, Repr

def Flaw.message : Flaw → String
  | .invalid n i =>
    "invalid utf-8 sequence of " ++ toString n ++ " bytes from index " ++ toString i
  | .incomplete i => "incomplete utf-8 byte sequence from index " ++ toString i

def encode (s : String) : List UInt8 :=
  s.toList.flatMap String.utf8EncodeChar

/-- Whether a byte continues a character. -/
def continues (b : Nat) : Bool :=
  decide (0x80 ≤ b) && decide (b ≤ 0xBF)

/-- Whether a byte may follow the first byte of a three-byte character. Surrogates and sequences
that a shorter one could replace are left out. -/
def secondOfThree (a b : Nat) : Bool :=
  if a = 0xE0 then decide (0xA0 ≤ b) && decide (b ≤ 0xBF)
  else if a = 0xED then decide (0x80 ≤ b) && decide (b ≤ 0x9F)
  else continues b

/-- Whether a byte may follow the first byte of a four-byte character. -/
def secondOfFour (a b : Nat) : Bool :=
  if a = 0xF0 then decide (0x90 ≤ b) && decide (b ≤ 0xBF)
  else if a = 0xF4 then decide (0x80 ≤ b) && decide (b ≤ 0x8F)
  else continues b

/-- The number of bytes a first byte announces. -/
def announced? (a : Nat) : Option Nat :=
  if a < 0x80 then some 1
  else if 0xC2 ≤ a ∧ a ≤ 0xDF then some 2
  else if 0xE0 ≤ a ∧ a ≤ 0xEF then some 3
  else if 0xF0 ≤ a ∧ a ≤ 0xF4 then some 4
  else none

/-- The first character of a nonempty list of bytes that starts at `i`, with the number of bytes
after the first that it takes. -/
def firstChar (i : Nat) (first : UInt8) (rest : List UInt8) : Except Flaw (Char × Nat) :=
  let a := first.toNat
  match announced? a, rest with
  | some 1, _ => .ok (Char.ofNat a, 0)
  | some 2, [] => .error (.incomplete i)
  | some 2, b :: _ =>
    if continues b.toNat then .ok (Char.ofNat ((a - 0xC0) * 64 + (b.toNat - 0x80)), 1)
    else .error (.invalid 1 i)
  | some 3, [] => .error (.incomplete i)
  | some 3, b :: tail =>
    if !secondOfThree a b.toNat then .error (.invalid 1 i) else
    match tail with
    | [] => .error (.incomplete i)
    | c :: _ =>
      if continues c.toNat then
        .ok (Char.ofNat (((a - 0xE0) * 64 + (b.toNat - 0x80)) * 64 + (c.toNat - 0x80)), 2)
      else .error (.invalid 2 i)
  | some _, [] => .error (.incomplete i)
  | some _, b :: tail =>
    if !secondOfFour a b.toNat then .error (.invalid 1 i) else
    match tail with
    | [] => .error (.incomplete i)
    | c :: tail =>
      if !continues c.toNat then .error (.invalid 2 i) else
      match tail with
      | [] => .error (.incomplete i)
      | d :: _ =>
        if continues d.toNat then
          .ok (Char.ofNat ((((a - 0xF0) * 64 + (b.toNat - 0x80)) * 64 + (c.toNat - 0x80)) * 64 +
            (d.toNat - 0x80)), 3)
        else .error (.invalid 3 i)
  | none, _ => .error (.invalid 1 i)

/-- Reads characters from byte `i` on, the first `skip` bytes being part of the one before. -/
def decodeFrom (i skip : Nat) : List UInt8 → Except Flaw (List Char)
  | [] => .ok []
  | b :: rest =>
    match skip with
    | n + 1 => decodeFrom (i + 1) n rest
    | 0 => do
      let (c, n) ← firstChar i b rest
      let cs ← decodeFrom (i + 1) n rest
      return c :: cs

def decode (bytes : List UInt8) : Except Flaw String := do
  return String.ofList (← decodeFrom 0 0 bytes)

end Provisioning.Text.Utf8
