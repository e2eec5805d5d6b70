/-!
# Base sixty-four text

Three bytes are written as four symbols of the standard alphabet; a last group of one or two bytes
is filled up with padding. Reading accepts exactly what writing produces: the padding must be
there, and the bits that the last symbol has to spare must be zero.

Of several flaws one is reported. A symbol outside the alphabet at the very end of a text that
does not close its group comes first, then the first symbol outside the alphabet, where padding
counts as one unless it stands among the last two of the last group and only padding follows. Then
come a group of a single symbol, missing padding, and spare bits.
-/

namespace Provisioning.Text.Base64

/-- Why a text is not base sixty-four. -/
inductive Flaw where
  | badSymbol (byte : UInt8) (offset : Nat)
  | badLength (symbols : Nat)
  | badPadding
  | badLastSymbol (byte : UInt8) (offset : Nat)
  deriving DecidableEq, Repr

def Flaw.message : Flaw → String
  | .badSymbol b i => "Invalid symbol " ++ toString b.toNat ++ ", offset " ++ toString i ++ "."
  | .badLength n => "Invalid input length: " ++ toString n
  | .badPadding => "Invalid padding"
  | .badLastSymbol b i =>
    "Invalid last symbol " ++ toString b.toNat ++ ", offset " ++ toString i ++ "."

/-- The padding character. -/
def pad : UInt8 := 61

/-- The symbol for a value below sixty-four. -/
def symbol (v : Nat) : UInt8 :=
  UInt8.ofNat <|
    if v < 26 then 65 + v
    else if v < 52 then 71 + v
    else if v < 62 then v - 4
    else if v = 62 then 43 else 47

/-- The value of a symbol of the alphabet. -/
def value? (b : UInt8) : Option Nat :=
  let c := b.toNat
  if 65 ≤ c ∧ c ≤ 90 then some (c - 65)
  else if 97 ≤ c ∧ c ≤ 122 then some (c - 71)
  else if 48 ≤ c ∧ c ≤ 57 then some (c + 4)
  else if c = 43 then some 62
  else if c = 47 then some 63
  else none

/-- The symbols for a list of bytes, padded to groups of four. -/
def encode : List UInt8 → List UInt8
  | [] => []
  | [a] => [symbol (a.toNat / 4), symbol (a.toNat % 4 * 16), pad, pad]
  | [a, b] =>
    [symbol (a.toNat / 4), symbol (a.toNat % 4 * 16 + b.toNat / 16), symbol (b.toNat % 16 * 4), pad]
  | a :: b :: c :: rest =>
    symbol (a.toNat / 4) :: symbol (a.toNat % 4 * 16 + b.toNat / 16) ::
      symbol (b.toNat % 16 * 4 + c.toNat / 64) :: symbol (c.toNat % 64) :: encode rest

/-- The text of a list of symbols. -/
def text (symbols : List UInt8) : String :=
  String.ofList (symbols.map fun b => Char.ofNat b.toNat)

/-- The value of a symbol that must belong to the alphabet. -/
def readSymbol (b : UInt8) (offset : Nat) : Except Flaw Nat :=
  match value? b with
  | some v => .ok v
  | none => .error (.badSymbol b offset)

/-- The bytes of four values. -/
def joinFour (a b c d : Nat) : List UInt8 :=
  [UInt8.ofNat (a * 4 + b / 16), UInt8.ofNat (b % 16 * 16 + c / 4), UInt8.ofNat (c % 4 * 64 + d)]

/-- The last group, of at most four symbols, padding included. Its first two places hold no
padding. -/
def decodeLast (offset : Nat) : List UInt8 → Except Flaw (List UInt8)
  | [] => .ok []
  | [a] => do
    let _ ← readSymbol a offset
    .error (.badLength (offset + 1))
  | a :: b :: tail => do
    let x ← readSymbol a offset
    let y ← readSymbol b (offset + 1)
    match tail with
    | [] => .error .badPadding
    | [c] =>
      if c ≠ pad then
        let _ ← readSymbol c (offset + 2)
      .error .badPadding
    | c :: d :: _ =>
      if c = pad then
        if d ≠ pad then .error (.badSymbol pad (offset + 2))
        else if y % 16 ≠ 0 then .error (.badLastSymbol b (offset + 1))
        else .ok [UInt8.ofNat (x * 4 + y / 16)]
      else
        let z ← readSymbol c (offset + 2)
        if d = pad then
          if z % 4 ≠ 0 then .error (.badLastSymbol c (offset + 2))
          else .ok [UInt8.ofNat (x * 4 + y / 16), UInt8.ofNat (y % 16 * 16 + z / 4)]
        else
          let w ← readSymbol d (offset + 3)
          .ok (joinFour x y z w)

/-- Reads groups of four symbols; the last group, full or not, may hold padding. -/
def decodeGroups (offset : Nat) : List UInt8 → Except Flaw (List UInt8)
  | a :: b :: c :: d :: e :: rest => do
    let x ← readSymbol a offset
    let y ← readSymbol b (offset + 1)
    let z ← readSymbol c (offset + 2)
    let w ← readSymbol d (offset + 3)
    let bytes ← decodeGroups (offset + 4) (e :: rest)
    return joinFour x y z w ++ bytes
  | symbols => decodeLast offset symbols

/-- A symbol after the last full group that belongs to no alphabet, such as a line end. -/
def strayEnd? (symbols : List UInt8) : Option Flaw :=
  match symbols.getLast? with
  | some b =>
    if symbols.length % 4 = 1 ∧ b ≠ pad ∧ value? b = none then
      some (.badSymbol b (symbols.length - 1))
    else none
  | none => none

/-- Reads the bytes of a text as base sixty-four. -/
def decode (symbols : List UInt8) : Except Flaw (List UInt8) :=
  match strayEnd? symbols with
  | some flaw => .error flaw
  | none => decodeGroups 0 symbols

end Provisioning.Text.Base64
