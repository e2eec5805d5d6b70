import Provisioning.Password.Cipher
import Provisioning.Proofs.Base64Text
import Provisioning.Proofs.Encryption
import Provisioning.Proofs.Utf8Text

/-!
# Encoded passwords are read back

What is stored of a password is the base sixty-four text of a nonce, the masked bytes and a tag, and
the cipher that stored it reads back the password, whatever the nonce was
(`decode_encode_password`).
-/

namespace Provisioning

open Text Crypto

namespace PasswordCipher

variable {c : PasswordCipher} {nonce : Nonce} {clear : String} {bytes : List UInt8}

/-- The bytes of a password, masked. -/
def masked (c : PasswordCipher) (nonce : Nonce) (clear : String) : List UInt8 :=
  Gcm.applyMask (Aes.roundKeys c.key) nonce.bytes (Utf8.encode clear)

/-- The tag that goes with the masked bytes. -/
def tag (c : PasswordCipher) (nonce : Nonce) (clear : String) : List UInt8 :=
  Gcm.tag (Aes.roundKeys c.key) nonce.bytes (c.masked nonce clear)

theorem encrypt_eq : Gcm.encrypt c.key nonce.bytes (Utf8.encode clear) =
    c.masked nonce clear ++ c.tag nonce clear :=
  rfl

theorem encode_eq : c.encode nonce clear = ⟨.aes, Base64.text (Base64.encode
    (nonce.bytes ++ Gcm.encrypt c.key nonce.bytes (Utf8.encode clear)))⟩ :=
  rfl

theorem length_masked (hkey : c.key.length = 32) :
    (c.masked nonce clear).length = clear.utf8ByteSize := by
  rw [masked, Gcm.length_applyMask hkey, Utf8.length_encode]

theorem length_tag (hkey : c.key.length = 32) : (c.tag nonce clear).length = Gcm.tagLength :=
  Gcm.length_tag hkey

theorem payload_text (h : Gcm.nonceLength + Gcm.tagLength ≤ bytes.length) :
    payload (Base64.text (Base64.encode bytes)) = .ok bytes := by
  rw [payload, Base64.encode_text_encode, Base64.decode_encode]
  exact if_neg (Nat.not_lt.2 h)

theorem reveal_of_decrypt? (h : Gcm.decrypt? c.key (bytes.take Gcm.nonceLength)
    (bytes.drop Gcm.nonceLength) = some (Utf8.encode clear)) : c.reveal bytes = .ok clear := by
  have hclear : Utf8.decode (Utf8.encode clear) = .ok clear := Utf8.decode_encode clear
  unfold reveal
  simp only [h, hclear]

theorem reveal_append (hkey : c.key.length = 32) :
    c.reveal (nonce.bytes ++ Gcm.encrypt c.key nonce.bytes (Utf8.encode clear)) = .ok clear := by
  refine reveal_of_decrypt? ?_
  rw [List.take_left' nonce.length_eq, List.drop_left' nonce.length_eq, Gcm.decrypt?_encrypt hkey]

theorem length_payload (hkey : c.key.length = 32) :
    (nonce.bytes ++ Gcm.encrypt c.key nonce.bytes (Utf8.encode clear)).length =
      Gcm.nonceLength + clear.utf8ByteSize + Gcm.tagLength := by
  rw [encrypt_eq, List.length_append, List.length_append, nonce.length_eq, length_masked hkey,
    length_tag hkey, Nat.add_assoc]

theorem decode_encode (hkey : c.key.length = 32) : c.decode (c.encode nonce clear) = .ok clear := by
  have hlength := @length_payload c nonce clear hkey
  have hpayload := @payload_text
    (nonce.bytes ++ Gcm.encrypt c.key nonce.bytes (Utf8.encode clear)) (by omega)
  rw [encode_eq, decode, hpayload]
  exact reveal_append hkey

theorem length_key_of_ofBytes {master : List UInt8} (h : ofBytes master = .ok c) :
    c.key.length = 32 := by
  unfold ofBytes at h
  split_ifs at h
  obtain rfl := Except.ok.inj h
  exact length_deriveKey

/-- A master key of the right length gives a cipher. Whatever the nonce and the password, what the
cipher stores is encrypted: the base sixty-four text of the nonce, of as many masked bytes as the
password has in UTF-8, and of the tag. It reads back the password. -/
theorem decode_encode_password (master : List UInt8) (h : master.length = keyLength) :
    ∃ c, ofBytes master = .ok c ∧ ∀ (nonce : Nonce) (clear : String),
      c.decode (c.encode nonce clear) = .ok clear ∧
        ∃ bytes, c.encode nonce clear = ⟨.aes, Base64.text (Base64.encode bytes)⟩ ∧
          bytes = nonce.bytes ++ c.masked nonce clear ++ c.tag nonce clear ∧
          nonce.bytes.length = 12 ∧ (c.masked nonce clear).length = clear.utf8ByteSize ∧
          (c.tag nonce clear).length = 16 ∧ bytes.length = 12 + clear.utf8ByteSize + 16 := by
  have hc : ofBytes master = .ok ⟨deriveKey master context⟩ := if_pos h
  have hkey := length_key_of_ofBytes hc
  refine ⟨_, hc, fun nonce clear => ⟨decode_encode hkey, _, encode_eq, ?_, nonce.length_eq,
    length_masked hkey, length_tag hkey, length_payload hkey⟩⟩
  rw [encrypt_eq, List.append_assoc]

theorem decode_encode_password_empty : (List.replicate 32 (7 : UInt8)).length = keyLength ∧
    ∃ c, ofBytes (List.replicate 32 7) = .ok c ∧
      c.decode (c.encode (.ofNat 1) "") = .ok "" ∧
      c.decode (c.encode (.ofNat 2) "pässword") = .ok "pässword" ∧
      ∃ bytes bytes', (c.encode (.ofNat 1) "").value = Base64.text (Base64.encode bytes) ∧
        (c.encode (.ofNat 2) "pässword").value = Base64.text (Base64.encode bytes') ∧
        bytes.length = 28 ∧ bytes'.length = 37 := by
  have h : (List.replicate 32 (7 : UInt8)).length = keyLength := by decide
  obtain ⟨c, hc, hread⟩ := decode_encode_password (List.replicate 32 7) h
  obtain ⟨hempty, bytes, hvalue, -, -, -, -, hlength⟩ := hread (.ofNat 1) ""
  obtain ⟨hclear, bytes', hvalue', -, -, -, -, hlength'⟩ := hread (.ofNat 2) "pässword"
  exact ⟨h, c, hc, hempty, hclear, bytes, bytes', congrArg StoredPassword.value hvalue,
    congrArg StoredPassword.value hvalue', hlength, hlength'⟩

end PasswordCipher

end Provisioning
