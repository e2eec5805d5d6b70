import Provisioning.Crypto.Gcm
import Provisioning.Crypto.KeyDerivation
import Provisioning.Password.Stored
import Provisioning.Text.Base64
import Provisioning.Text.Quoted
import Provisioning.Text.Utf8

/-!
# Encrypting passwords

A password is encrypted under a key derived from a master key. What is stored is the base sixty-four
text of the nonce, the masked bytes and the tag; the nonce is chosen anew each time. A stored
password can be decoded when its algorithm is reversible and nothing about it was changed.
-/

namespace Provisioning

open Text

inductive CipherError where
  | invalidKey (message : String)
  | notReversible (algorithm : CipherAlgorithm)
  | encryptionFailed (message : String)
  | decryptionFailed (message : String)
  deriving DecidableEq, Repr

def CipherError.message : CipherError → String
  | .invalidKey m => "Invalid master key: " ++ m
  | .notReversible a => "Password stored with " ++ word a ++ " cannot be decoded"
  | .encryptionFailed m => "Encryption failed: " ++ m
  | .decryptionFailed m => "Decryption failed: " ++ m

/-- A fixed word for each kind of error. -/
def CipherError.code : CipherError → String
  | .invalidKey _ => "invalid_key"
  | .notReversible _ => "not_reversible"
  | .encryptionFailed _ => "encryption_failed"
  | .decryptionFailed _ => "decryption_failed"

/-- A number that is used only once. -/
structure Nonce where
  bytes : List UInt8
  length_eq : bytes.length = Crypto.Gcm.nonceLength

namespace Nonce

/-- The nonce that a number gives by its lowest bytes. -/
def ofNat (n : Nat) : Nonce :=
  ⟨Crypto.Gcm.bytesOf Crypto.Gcm.nonceLength n, by simp [Crypto.Gcm.bytesOf]⟩

end Nonce

structure PasswordCipher where
  key : List UInt8

namespace PasswordCipher

def keyLength : Nat := 32

/-- What the derived key is for. -/
def context : List UInt8 :=
  Utf8.encode "xavyo-propagation-passwords-v1"

/-- The cipher of a master key of the right length. -/
def ofBytes (master : List UInt8) : Except CipherError PasswordCipher :=
  if master.length = keyLength then .ok ⟨Crypto.deriveKey master context⟩
  else .error (.invalidKey ("key must be " ++ toString keyLength ++ " bytes, got " ++
    toString master.length))

/-- Says what is wrong with a text to the base sixteen. -/
def hexFlaw : Hex.Flaw → String
  | .oddLength => "Odd number of digits"
  | .badDigit byte offset =>
    "Invalid character " ++ Quoted.single (Char.ofNat byte.toNat) ++ " at position " ++
      toString offset

/-- The cipher of a master key written to the base sixteen. -/
def ofHex (text : String) : Except CipherError PasswordCipher :=
  match Hex.decode (Utf8.encode text) with
  | .ok bytes => ofBytes bytes
  | .error flaw => .error (.invalidKey ("invalid hex key: " ++ hexFlaw flaw))

/-- The cipher of a master key written to the base sixty-four. -/
def ofBase64 (text : String) : Except CipherError PasswordCipher :=
  match Base64.decode (Utf8.encode text) with
  | .ok bytes => ofBytes bytes
  | .error flaw => .error (.invalidKey ("invalid base64 key: " ++ flaw.message))

/-- Encrypts a password. Only one beyond the length that the cipher takes, almost `2 ^ 36` bytes,
could not be encrypted, so that no error is among the values. -/
def encode (c : PasswordCipher) (nonce : Nonce) (clear : String) : StoredPassword where
  algorithm := .aes
  value := Base64.text (Base64.encode
    (nonce.bytes ++ Crypto.Gcm.encrypt c.key nonce.bytes (Utf8.encode clear)))

/-- Takes apart the text of an encrypted password. -/
def payload (text : String) : Except CipherError (List UInt8) :=
  match Base64.decode (Utf8.encode text) with
  | .error flaw => .error (.decryptionFailed ("invalid base64 payload: " ++ flaw.message))
  | .ok bytes =>
    if bytes.length < Crypto.Gcm.nonceLength + Crypto.Gcm.tagLength then
      .error (.decryptionFailed "ciphertext too short")
    else .ok bytes

/-- Decrypts a payload. -/
def reveal (c : PasswordCipher) (bytes : List UInt8) : Except CipherError String :=
  match Crypto.Gcm.decrypt? c.key (bytes.take Crypto.Gcm.nonceLength)
      (bytes.drop Crypto.Gcm.nonceLength) with
  | none => .error (.decryptionFailed "aead::Error")
  | some clear =>
    match Utf8.decode clear with
    | .ok text => .ok text
    | .error flaw =>
      .error (.decryptionFailed ("decrypted data is not valid UTF-8: " ++ flaw.message))

/-- The password in the clear. -/
def decode (c : PasswordCipher) (stored : StoredPassword) : Except CipherError String :=
  if stored.algorithm.isReversible then do c.reveal (← payload stored.value)
  else .error (.notReversible stored.algorithm)

/-- What diagnostics show of a cipher: nothing of its key. -/
def redacted (_ : PasswordCipher) : String :=
  "PasswordCipher \x7b .. \x7d"

end PasswordCipher

end Provisioning
