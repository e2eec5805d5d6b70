import Provisioning.Crypto.Sha256

/-!
# Deriving keys

A keyed hash of a message hashes it twice, behind two forms of the key. With its help a master key
is first condensed, then expanded to a key for one purpose, which a context names.
-/

namespace Provisioning.Crypto

/-- The bytes of a block of the hash. -/
def blockLength : Nat := 64

/-- The key at the length of a block, hashed first if it is longer. -/
def blockKey (key : List UInt8) : List UInt8 :=
  let key := if blockLength < key.length then Sha256.hash key else key
  key ++ List.replicate (blockLength - key.length) 0

/-- The keyed hash of a message. -/
def keyedHash (key message : List UInt8) : List UInt8 :=
  let inner := (blockKey key).map fun b => b ^^^ 0x36
  let outer := (blockKey key).map fun b => b ^^^ 0x5C
  Sha256.hash (outer ++ Sha256.hash (inner ++ message))

/-- A key of thirty-two bytes for one purpose. -/
def deriveKey (master context : List UInt8) : List UInt8 :=
  keyedHash (keyedHash (List.replicate 32 0) master) (context ++ [1])

end Provisioning.Crypto
