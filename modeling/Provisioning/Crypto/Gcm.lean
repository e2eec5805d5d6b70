import Provisioning.Crypto.Aes

/-!
# Authenticated encryption in Galois counter mode

The bytes of a message are masked with those of encrypted counters. A tag of sixteen bytes follows,
computed from the masked bytes, so that a message that was tampered with is recognised. Each
message takes a nonce of twelve bytes of its own.

The tag is a polynomial in a secret element of a field of `2 ^ 128` elements, which are kept as
numbers; the highest bit is the coefficient of the constant term.
-/

namespace Provisioning.Crypto.Gcm

def nonceLength : Nat := 12

def tagLength : Nat := 16

/-- The number that bytes write, the highest byte first. -/
def numberOf (bytes : List UInt8) : Nat :=
  bytes.foldl (fun n b => n * 256 + b.toNat) 0

/-- The lowest bytes of a number, the highest of them first. -/
def bytesOf (count n : Nat) : List UInt8 :=
  (List.range count).map fun i => UInt8.ofNat (n / Nat.pow 256 (count - 1 - i))

/-- Multiplies an element of the field by the polynomial `x`. -/
def shift (v : Nat) : Nat :=
  if v % 2 = 0 then v / 2 else (v / 2) ^^^ (0xE1 * Nat.pow 2 120)

/-- The product of two elements of the field. -/
def multiply (a b : Nat) : Nat :=
  ((List.range 128).foldl
    (fun (acc : Nat × Nat) i =>
      (if a.testBit (127 - i) then acc.1 ^^^ acc.2 else acc.1, shift acc.2))
    (0, b)).1

/-- The blocks of sixteen bytes, the last one filled with zeros, as numbers. -/
def blocks (bytes : List UInt8) : List Nat :=
  if bytes.isEmpty then []
  else numberOf ((bytes ++ List.replicate 16 0).take 16) :: blocks (bytes.drop 16)
termination_by bytes.length
decreasing_by
  rename_i h
  simp only [List.isEmpty_iff] at h
  have : 0 < bytes.length := List.length_pos_iff.mpr h
  simp only [List.length_drop]
  omega

/-- The polynomial of blocks at an element. -/
def polynomial (secret : Nat) (blocks : List Nat) : Nat :=
  blocks.foldl (fun y x => multiply (y ^^^ x) secret) 0

/-- The block that is encrypted for a counter. -/
def counterBlock (nonce : List UInt8) (counter : Nat) : List UInt8 :=
  nonce ++ bytesOf 4 counter

/-- As many masking bytes as are asked for. The counter 1 is kept for the tag. -/
def mask (keys : List (List UInt8)) (nonce : List UInt8) (length : Nat) : List UInt8 :=
  ((List.range ((length + 15) / 16)).flatMap fun i =>
    Aes.encryptWith keys (counterBlock nonce (i + 2))).take length

/-- Masks or unmasks bytes. -/
def applyMask (keys : List (List UInt8)) (nonce bytes : List UInt8) : List UInt8 :=
  Aes.add bytes (mask keys nonce bytes.length)

/-- The tag of masked bytes. -/
def tag (keys : List (List UInt8)) (nonce masked : List UInt8) : List UInt8 :=
  let secret := numberOf (Aes.encryptWith keys (List.replicate 16 0))
  let sum := polynomial secret (blocks masked ++ [8 * masked.length])
  Aes.add (Aes.encryptWith keys (counterBlock nonce 1)) (bytesOf tagLength sum)

/-- The masked message and its tag. -/
def encrypt (key nonce message : List UInt8) : List UInt8 :=
  let keys := Aes.roundKeys key
  let masked := applyMask keys nonce message
  masked ++ tag keys nonce masked

/-- The message, if the tag is right. -/
def decrypt? (key nonce payload : List UInt8) : Option (List UInt8) :=
  let keys := Aes.roundKeys key
  let masked := payload.take (payload.length - tagLength)
  if payload.drop (payload.length - tagLength) = tag keys nonce masked then
    some (applyMask keys nonce masked)
  else none

end Provisioning.Crypto.Gcm
