import Mathlib.Tactic.Common
import Provisioning.Text.Utf8

/-!
# Text through UTF-8

Each character is read back from the bytes that it is written in, whatever follows them
(`firstChar_utf8EncodeChar`), and so is every text (`decode_encode`).
-/

namespace Provisioning.Text.Utf8

section Numbers

variable {a b : Nat}

theorem toNat_ofNat (h : a < 256) : (UInt8.ofNat a).toNat = a := by
  rw [UInt8.toNat_ofNat', Nat.mod_eq_of_lt h]

theorem announced?_one (h : a < 0x80) : announced? a = some 1 :=
  if_pos h

theorem announced?_two (h : 0xC2 ≤ a) (h' : a ≤ 0xDF) : announced? a = some 2 := by
  rw [announced?, if_neg (by omega), if_pos ⟨h, h'⟩]

theorem announced?_three (h : 0xE0 ≤ a) (h' : a ≤ 0xEF) : announced? a = some 3 := by
  rw [announced?, if_neg (by omega), if_neg (by omega), if_pos ⟨h, h'⟩]

theorem announced?_four (h : 0xF0 ≤ a) (h' : a ≤ 0xF4) : announced? a = some 4 := by
  rw [announced?, if_neg (by omega), if_neg (by omega), if_neg (by omega), if_pos ⟨h, h'⟩]

theorem continues_iff : continues b ↔ 0x80 ≤ b ∧ b ≤ 0xBF := by
  simp [continues]

theorem secondOfThree_iff : secondOfThree a b ↔
    (0x80 ≤ b ∧ b ≤ 0xBF) ∧ (a = 0xE0 → 0xA0 ≤ b) ∧ (a = 0xED → b ≤ 0x9F) := by
  unfold secondOfThree
  split_ifs <;> simp [continues_iff] <;> omega

theorem secondOfFour_iff : secondOfFour a b ↔
    (0x80 ≤ b ∧ b ≤ 0xBF) ∧ (a = 0xF0 → 0x90 ≤ b) ∧ (a = 0xF4 → b ≤ 0x8F) := by
  unfold secondOfFour
  split_ifs <;> simp [continues_iff] <;> omega

end Numbers

section Characters

variable {a b c d : UInt8} {i v : Nat} {rest : List UInt8}

theorem firstChar_one (ha : announced? a.toNat = some 1) :
    firstChar i a rest = .ok (Char.ofNat a.toNat, 0) := by
  simp only [firstChar.eq_def, ha]

theorem firstChar_two (ha : announced? a.toNat = some 2) (hb : continues b.toNat) :
    firstChar i a (b :: rest) =
      .ok (Char.ofNat ((a.toNat - 0xC0) * 64 + (b.toNat - 0x80)), 1) := by
  simp only [firstChar.eq_def, ha, hb, if_true]

theorem firstChar_three (ha : announced? a.toNat = some 3) (hb : secondOfThree a.toNat b.toNat)
    (hc : continues c.toNat) : firstChar i a (b :: c :: rest) =
      .ok (Char.ofNat (((a.toNat - 0xE0) * 64 + (b.toNat - 0x80)) * 64 + (c.toNat - 0x80)), 2) := by
  simp only [firstChar.eq_def, ha, hb, hc, Bool.not_true, Bool.false_eq_true, if_false, if_true]

theorem firstChar_four (ha : announced? a.toNat = some 4) (hb : secondOfFour a.toNat b.toNat)
    (hc : continues c.toNat) (hd : continues d.toNat) : firstChar i a (b :: c :: d :: rest) =
      .ok (Char.ofNat ((((a.toNat - 0xF0) * 64 + (b.toNat - 0x80)) * 64 + (c.toNat - 0x80)) * 64 +
        (d.toNat - 0x80)), 3) := by
  simp only [firstChar.eq_def, ha, hb, hc, hd, Bool.not_true, Bool.false_eq_true, if_false, if_true]

theorem toNat_last : (UInt8.ofNat (v % 64 + 0x80)).toNat = v % 64 + 0x80 :=
  toNat_ofNat (by omega)

theorem toNat_middle : (UInt8.ofNat (v / 64 % 64 + 0x80)).toNat = v / 64 % 64 + 0x80 :=
  toNat_ofNat (by omega)

theorem continues_last : continues (UInt8.ofNat (v % 64 + 0x80)).toNat := by
  rw [toNat_last, continues_iff]
  omega

theorem continues_middle : continues (UInt8.ofNat (v / 64 % 64 + 0x80)).toNat := by
  rw [toNat_middle, continues_iff]
  omega

theorem firstChar_ofNat_one (h : v ≤ 0x7F) :
    firstChar i (UInt8.ofNat v) rest = .ok (Char.ofNat v, 0) := by
  have ha : (UInt8.ofNat v).toNat = v := toNat_ofNat (by omega)
  rw [firstChar_one, ha]
  rw [ha]
  exact announced?_one (by omega)

theorem firstChar_ofNat_two (h : 0x7F < v) (h' : v ≤ 0x7FF) :
    firstChar i (UInt8.ofNat (v / 64 % 32 + 0xC0)) (UInt8.ofNat (v % 64 + 0x80) :: rest) =
      .ok (Char.ofNat v, 1) := by
  have ha : (UInt8.ofNat (v / 64 % 32 + 0xC0)).toNat = v / 64 % 32 + 0xC0 :=
    toNat_ofNat (by omega)
  have hv : (v / 64 % 32 + 0xC0 - 0xC0) * 64 + (v % 64 + 0x80 - 0x80) = v := by omega
  rw [firstChar_two ?_ continues_last, ha, toNat_last, hv]
  rw [ha]
  exact announced?_two (by omega) (by omega)

theorem firstChar_ofNat_three (h : 0x7FF < v) (h' : v ≤ 0xFFFF)
    (hsurrogate : v < 0xD800 ∨ 0xDFFF < v) :
    firstChar i (UInt8.ofNat (v / 4096 % 16 + 0xE0))
      (UInt8.ofNat (v / 64 % 64 + 0x80) :: UInt8.ofNat (v % 64 + 0x80) :: rest) =
      .ok (Char.ofNat v, 2) := by
  have ha : (UInt8.ofNat (v / 4096 % 16 + 0xE0)).toNat = v / 4096 % 16 + 0xE0 :=
    toNat_ofNat (by omega)
  have hv : ((v / 4096 % 16 + 0xE0 - 0xE0) * 64 + (v / 64 % 64 + 0x80 - 0x80)) * 64 +
      (v % 64 + 0x80 - 0x80) = v := by omega
  rw [firstChar_three ?_ ?_ continues_last, ha, toNat_middle, toNat_last, hv]
  · rw [ha]
    exact announced?_three (by omega) (by omega)
  · rw [ha, toNat_middle, secondOfThree_iff]
    omega

theorem firstChar_ofNat_four (h : 0xFFFF < v) (h' : v < 0x110000) :
    firstChar i (UInt8.ofNat (v / 262144 % 8 + 0xF0))
      (UInt8.ofNat (v / 4096 % 64 + 0x80) :: UInt8.ofNat (v / 64 % 64 + 0x80) ::
        UInt8.ofNat (v % 64 + 0x80) :: rest) = .ok (Char.ofNat v, 3) := by
  have ha : (UInt8.ofNat (v / 262144 % 8 + 0xF0)).toNat = v / 262144 % 8 + 0xF0 :=
    toNat_ofNat (by omega)
  have hb : (UInt8.ofNat (v / 4096 % 64 + 0x80)).toNat = v / 4096 % 64 + 0x80 :=
    toNat_ofNat (by omega)
  have hv : (((v / 262144 % 8 + 0xF0 - 0xF0) * 64 + (v / 4096 % 64 + 0x80 - 0x80)) * 64 +
      (v / 64 % 64 + 0x80 - 0x80)) * 64 + (v % 64 + 0x80 - 0x80) = v := by omega
  rw [firstChar_four ?_ ?_ continues_middle continues_last, ha, hb, toNat_middle, toNat_last, hv]
  · rw [ha]
    exact announced?_four (by omega) (by omega)
  · rw [ha, hb, secondOfFour_iff]
    omega

/-- A character is read from the bytes that it is written in. -/
theorem firstChar_utf8EncodeChar (i : Nat) (ch : Char) (rest : List UInt8) :
    ∃ first tail, String.utf8EncodeChar ch = first :: tail ∧
      firstChar i first (tail ++ rest) = .ok (ch, tail.length) := by
  have hvalid : ch.val.toNat < 0xD800 ∨ 0xDFFF < ch.val.toNat ∧ ch.val.toNat < 0x110000 := ch.valid
  have hch : Char.ofNat ch.val.toNat = ch := Char.ofNat_toNat ch
  rw [String.utf8EncodeChar]
  generalize ch.val.toNat = v at hvalid hch ⊢
  subst hch
  split_ifs with h1 h2 h3
  · exact ⟨_, [], rfl, firstChar_ofNat_one h1⟩
  · exact ⟨_, [_], rfl, firstChar_ofNat_two (by omega) h2⟩
  · exact ⟨_, [_, _], rfl, firstChar_ofNat_three (by omega) h3 (by omega)⟩
  · exact ⟨_, [_, _, _], rfl, firstChar_ofNat_four (by omega) (by omega)⟩

end Characters

section Texts

variable {bytes rest : List UInt8} {ch : Char} {s : String}

theorem decodeFrom_eq_drop : ∀ {i skip : Nat} {bytes : List UInt8},
    decodeFrom i skip bytes = decodeFrom (i + skip) 0 (bytes.drop skip)
  | _, 0, _ => rfl
  | _, _ + 1, [] => rfl
  | i, skip + 1, _ :: bytes => by
    rw [decodeFrom, decodeFrom_eq_drop, List.drop_succ_cons, Nat.add_right_comm, Nat.add_assoc]

theorem decodeFrom_utf8EncodeChar {i : Nat} {cs : List Char}
    (h : ∀ j, decodeFrom j 0 rest = .ok cs) :
    decodeFrom i 0 (String.utf8EncodeChar ch ++ rest) = .ok (ch :: cs) := by
  obtain ⟨first, tail, hbytes, hfirst⟩ := firstChar_utf8EncodeChar i ch rest
  rw [hbytes, List.cons_append, decodeFrom, hfirst]
  show (decodeFrom (i + 1) tail.length (tail ++ rest) >>= fun cs => pure (ch :: cs)) = _
  rw [decodeFrom_eq_drop, List.drop_left, h]
  rfl

theorem decodeFrom_flatMap : ∀ {cs : List Char} {i : Nat},
    decodeFrom i 0 (cs.flatMap String.utf8EncodeChar) = .ok cs
  | [], _ => rfl
  | _ :: _, _ => decodeFrom_utf8EncodeChar fun _ => decodeFrom_flatMap

/-- Every text is read back from its bytes. -/
theorem decode_encode (s : String) : decode (encode s) = .ok s := by
  rw [decode, encode, decodeFrom_flatMap]
  show Except.ok (String.ofList s.toList) = _
  rw [String.ofList_toList]

theorem length_encode : (encode s).length = s.utf8ByteSize := by
  rw [encode, ← List.size_toByteArray, ← String.size_toByteArray, ← String.utf8Encode_toList]
  rfl

end Texts

end Provisioning.Text.Utf8
