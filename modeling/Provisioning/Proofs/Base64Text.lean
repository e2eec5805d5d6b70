import Mathlib.Tactic.Common
import Provisioning.Text.Base64
import Provisioning.Text.Utf8

/-!
# Bytes through base sixty-four

Bytes of any number are read back from their symbols, padding and spare bits included
(`decode_encode`). All symbols are ASCII, so that they are the bytes of their text
(`encode_text_encode`).
-/

namespace Provisioning.Text.Base64

section Symbols

variable {v i : Nat}

theorem value?_symbol (h : v < 64) : value? (symbol v) = some v := by
  revert v
  decide

theorem symbol_ne_pad (h : v < 64) : symbol v ≠ pad := by
  revert v
  decide

theorem symbol_lt (h : v < 64) : (symbol v).toNat < 128 := by
  revert v
  decide

theorem readSymbol_symbol (h : v < 64) : readSymbol (symbol v) i = .ok v := by
  rw [readSymbol, value?_symbol h]

end Symbols

section Groups

variable {a b c : UInt8} {bytes : List UInt8} {i : Nat}

theorem first_lt (a : UInt8) : a.toNat / 4 < 64 := by
  have ha := a.toNat_lt
  omega

theorem second_lt (a b : UInt8) : a.toNat % 4 * 16 + b.toNat / 16 < 64 := by
  have hb := b.toNat_lt
  omega

theorem third_lt (b c : UInt8) : b.toNat % 16 * 4 + c.toNat / 64 < 64 := by
  have hc := c.toNat_lt
  omega

theorem fourth_lt (c : UInt8) : c.toNat % 64 < 64 :=
  Nat.mod_lt _ (by decide)

theorem ofNat_eq {n : Nat} (h : n = a.toNat) : UInt8.ofNat n = a := by
  rw [h, UInt8.ofNat_toNat]

theorem joinFour_split : joinFour (a.toNat / 4) (a.toNat % 4 * 16 + b.toNat / 16)
    (b.toNat % 16 * 4 + c.toNat / 64) (c.toNat % 64) = [a, b, c] := by
  have ha := a.toNat_lt
  have hb := b.toNat_lt
  have hc := c.toNat_lt
  rw [joinFour, ofNat_eq (a := a) (by omega), ofNat_eq (a := b) (by omega),
    ofNat_eq (a := c) (by omega)]

theorem decodeLast_one : decodeLast i (encode [a]) = .ok [a] := by
  have hlast : a.toNat % 4 * 16 < 64 := by omega
  have hspare : a.toNat % 4 * 16 % 16 = 0 := by omega
  have hbyte : UInt8.ofNat (a.toNat / 4 * 4 + a.toNat % 4 * 16 / 16) = a := ofNat_eq (by omega)
  simp only [encode, decodeLast, readSymbol_symbol (first_lt a), readSymbol_symbol hlast, bind,
    Except.bind, hspare, hbyte, ne_eq, not_true, if_true, if_false]

theorem decodeLast_two : decodeLast i (encode [a, b]) = .ok [a, b] := by
  have ha := a.toNat_lt
  have hb := b.toNat_lt
  have hlast : b.toNat % 16 * 4 < 64 := by omega
  have hspare : b.toNat % 16 * 4 % 4 = 0 := by omega
  have hfirst : UInt8.ofNat (a.toNat / 4 * 4 + (a.toNat % 4 * 16 + b.toNat / 16) / 16) = a :=
    ofNat_eq (by omega)
  have hsecond : UInt8.ofNat ((a.toNat % 4 * 16 + b.toNat / 16) % 16 * 16 + b.toNat % 16 * 4 / 4) =
      b := ofNat_eq (by omega)
  simp only [encode, decodeLast, readSymbol_symbol (first_lt a), readSymbol_symbol (second_lt a b),
    readSymbol_symbol hlast, symbol_ne_pad hlast, bind, Except.bind, hspare, hfirst, hsecond, ne_eq,
    not_true, if_true, if_false]

theorem decodeLast_three : decodeLast i (encode [a, b, c]) = .ok [a, b, c] := by
  simp only [encode, decodeLast, readSymbol_symbol (first_lt a), readSymbol_symbol (second_lt a b),
    readSymbol_symbol (third_lt b c), readSymbol_symbol (fourth_lt c), symbol_ne_pad (third_lt b c),
    symbol_ne_pad (fourth_lt c), bind, Except.bind, joinFour_split, if_false]

/-- A full group is read before what follows it. -/
theorem decodeGroups_cons {e : UInt8} {rest : List UInt8} (h : encode bytes = e :: rest)
    (hbytes : decodeGroups (i + 4) (encode bytes) = .ok bytes) :
    decodeGroups i (encode (a :: b :: c :: bytes)) = .ok (a :: b :: c :: bytes) := by
  rw [h] at hbytes
  simp only [encode, h, decodeGroups, readSymbol_symbol (first_lt a),
    readSymbol_symbol (second_lt a b), readSymbol_symbol (third_lt b c),
    readSymbol_symbol (fourth_lt c), hbytes, bind, Except.bind, joinFour_split]
  rfl

theorem exists_encode_cons : ∃ e rest, encode (a :: bytes) = e :: rest := by
  rcases bytes with _ | ⟨b, _ | ⟨c, bytes⟩⟩ <;> exact ⟨_, _, rfl⟩

theorem decodeGroups_encode : ∀ {bytes : List UInt8} {i : Nat},
    decodeGroups i (encode bytes) = .ok bytes
  | [], _ => rfl
  | [a], _ => decodeLast_one
  | [a, b], _ => decodeLast_two
  | [a, b, c], _ => decodeLast_three
  | a :: b :: c :: d :: bytes, i => by
    obtain ⟨e, rest, h⟩ := @exists_encode_cons d bytes
    exact decodeGroups_cons h decodeGroups_encode

theorem length_encode_mod : ∀ {bytes : List UInt8}, (encode bytes).length % 4 = 0
  | [] => rfl
  | [_] => by simp [encode]
  | [_, _] => by simp [encode]
  | _ :: _ :: _ :: bytes => by
    have ih := @length_encode_mod bytes
    simp only [encode, List.length_cons]
    omega

theorem strayEnd?_encode : strayEnd? (encode bytes) = none := by
  have hlength := @length_encode_mod bytes
  unfold strayEnd?
  split
  · rw [if_neg]
    omega
  · rfl

/-- Bytes are read back from their symbols. -/
theorem decode_encode (bytes : List UInt8) : decode (encode bytes) = .ok bytes := by
  rw [decode, strayEnd?_encode]
  exact decodeGroups_encode

end Groups

section Text

variable {symbols bytes : List UInt8}

/-- Symbols and padding are ASCII. -/
theorem lt_of_mem_encode : ∀ {bytes : List UInt8}, ∀ s ∈ encode bytes, s.toNat < 128
  | [], s, hs => by simp [encode] at hs
  | [a], s, hs => by
    simp only [encode, List.mem_cons, List.not_mem_nil, or_false] at hs
    rcases hs with rfl | rfl | rfl | rfl
    · exact symbol_lt (first_lt a)
    · exact symbol_lt (by omega)
    · decide
    · decide
  | [a, b], s, hs => by
    simp only [encode, List.mem_cons, List.not_mem_nil, or_false] at hs
    rcases hs with rfl | rfl | rfl | rfl
    · exact symbol_lt (first_lt a)
    · exact symbol_lt (second_lt a b)
    · exact symbol_lt (by omega)
    · decide
  | a :: b :: c :: bytes, s, hs => by
    simp only [encode, List.mem_cons] at hs
    rcases hs with rfl | rfl | rfl | rfl | hs
    · exact symbol_lt (first_lt a)
    · exact symbol_lt (second_lt a b)
    · exact symbol_lt (third_lt b c)
    · exact symbol_lt (fourth_lt c)
    · exact lt_of_mem_encode s hs

theorem utf8EncodeChar_ofNat {b : UInt8} (h : b.toNat < 128) :
    String.utf8EncodeChar (Char.ofNat b.toNat) = [b] := by
  have hvalid : b.toNat.isValidChar := .inl (Nat.lt_trans h (by decide))
  have hval : (Char.ofNat b.toNat).val.toNat = b.toNat := by
    rw [Char.ofNat, dif_pos hvalid]
    rfl
  rw [String.utf8EncodeChar, hval, if_pos (by omega), UInt8.ofNat_toNat]

/-- ASCII bytes are those of their text. -/
theorem encode_text (h : ∀ b ∈ symbols, b.toNat < 128) : Utf8.encode (text symbols) = symbols := by
  rw [Utf8.encode, text, String.toList_ofList, List.flatMap_map]
  induction symbols with
  | nil => rfl
  | cons b symbols ih =>
    rw [List.flatMap_cons, utf8EncodeChar_ofNat (h b List.mem_cons_self),
      ih fun b hb => h b (List.mem_cons_of_mem _ hb)]
    rfl

theorem encode_text_encode : Utf8.encode (text (encode bytes)) = encode bytes :=
  encode_text lt_of_mem_encode

end Text

end Provisioning.Text.Base64
