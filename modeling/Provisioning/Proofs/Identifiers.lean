import Mathlib.Algebra.Group.Nat.Defs
import Mathlib.Tactic.Common
import Provisioning.Identifier

/-!
# Identifiers are read from their text

The digits of a number to the base sixteen write that number, if there are enough of them
(`natOf?_ofNat`). The text of an identifier has them in five groups, between which the hyphens are
the only characters that are no digits, so that reading finds the groups again (`ofText?_text`).
-/

namespace Provisioning

namespace Text.Hex

variable {n width : Nat} {c : Char} {cs : List Char}

theorem length_ofNat : ∀ {width n : Nat}, (ofNat width n).length = width
  | 0, _ => rfl
  | width + 1, n => by
    rw [ofNat, List.length_append, length_ofNat]
    rfl

theorem exists_digit : ∀ {width n : Nat}, c ∈ ofNat width n → ∃ k < 16, c = digit k
  | 0, _, h => absurd h List.not_mem_nil
  | width + 1, n, h => by
    rw [ofNat, List.mem_append, List.mem_singleton] at h
    exact h.elim exists_digit fun h => ⟨n % 16, Nat.mod_lt n (by decide), h⟩

theorem value?_digit : ∀ k < 16, value? (digit k).toNat = some k := by
  decide

theorem natOf?_concat {m k : Nat} (hm : natOf? cs = some m) (hk : value? c.toNat = some k) :
    natOf? (cs ++ [c]) = some (m * 16 + k) := by
  rw [natOf?] at hm ⊢
  rw [List.foldl_append, hm, List.foldl_cons, hk]
  rfl

/-- As many digits as are asked for write the number, less what does not fit them. -/
theorem natOf?_ofNat : ∀ {width n : Nat}, natOf? (ofNat width n) = some (n % 16 ^ width)
  | 0, n => by rw [Nat.pow_zero, Nat.mod_one]; rfl
  | width + 1, n => by
    rw [ofNat, natOf?_concat natOf?_ofNat (value?_digit _ (Nat.mod_lt n (by decide)))]
    have hsplit : n % 16 ^ (width + 1) = n % 16 + 16 * (n / 16 % 16 ^ width) := by
      rw [Nat.pow_succ, Nat.mul_comm, Nat.mod_mul]
    rw [hsplit]
    congr 1
    omega

end Text.Hex

namespace Identifier

variable {id : Identifier}

theorem length_digits : id.digits.length = 32 :=
  Text.Hex.length_ofNat

theorem natOf?_digits : Text.Hex.natOf? id.digits = some id.bits.toNat := by
  have hbits : id.bits.toNat < 16 ^ 32 := by
    have h := id.bits.isLt
    omega
  rw [digits, Text.Hex.natOf?_ofNat, Nat.mod_eq_of_lt hbits]

theorem ofDigits?_digits : ofDigits? id.digits = some id := by
  rw [ofDigits?, if_pos length_digits, natOf?_digits]
  simp

/-- A digit is none of the characters that mean something else in the text of an identifier. -/
theorem digit_ne : ∀ k < 16, Text.Hex.digit k ≠ '-' ∧ Text.Hex.digit k ≠ '\x7b' ∧
    (Text.Hex.digit k).toLower ≠ 'u' := by
  decide

theorem ofHyphenated?_intercalate {a b c d e : List Char}
    (hlengths : [a, b, c, d, e].map List.length = groups)
    (hhyphen : ∀ part ∈ [a, b, c, d, e], '-' ∉ part) :
    ofHyphenated? (['-'].intercalate [a, b, c, d, e]) = ofDigits? (a ++ b ++ c ++ d ++ e) := by
  rw [ofHyphenated?, List.splitOn_intercalate _ hhyphen (by simp)]
  exact if_pos hlengths

/-- The groups of the digits, which are all of them. -/
theorem exists_groups {ds : List Char} (h : ds.length = 32) :
    ∃ a b c d e, cut groups ds = [a, b, c, d, e] ∧ [a, b, c, d, e].map List.length = groups ∧
      a ++ b ++ c ++ d ++ e = ds := by
  refine ⟨_, _, _, _, _, rfl, ?_, ?_⟩
  · simp [groups, h]
  · have hlast : (((ds.drop 8).drop 4).drop 4).drop 4 =
        ((((ds.drop 8).drop 4).drop 4).drop 4).take 12 :=
      (List.take_of_length_le (by simp [h])).symm
    rw [← hlast]
    simp only [List.append_assoc, List.take_append_drop]

theorem not_mem_digits {c : Char} (h : ∀ k < 16, Text.Hex.digit k ≠ c) : c ∉ id.digits := by
  intro hc
  obtain ⟨k, hk, rfl⟩ := Text.Hex.exists_digit hc
  exact h k hk rfl

/-- A text that starts with a digit and is longer than the digits alone is read by its hyphens. -/
theorem ofText?_of_digit {s : String} {k : Nat} {cs : List Char} (hk : k < 16)
    (hs : s.toList = Text.Hex.digit k :: cs) (hlength : s.toList.length ≠ 32) :
    ofText? s = ofHyphenated? s.toList := by
  obtain ⟨-, hbrace, hurn⟩ := digit_ne k hk
  have hbraced : braced? s.toList = none := by
    unfold braced?
    rw [hs]
    split
    · rename_i h
      exact absurd (List.cons.inj h).1 hbrace
    · rfl
  have hprefix : afterUrn? s.toList = none := by
    rw [afterUrn?, if_neg]
    intro h
    rw [hs] at h
    exact hurn (List.cons.inj h).1
  rw [ofText?, ofDigits?, if_neg hlength, hbraced, hprefix]
  rfl

/-- An identifier is read from its text. -/
theorem ofText?_text : ofText? id.text = some id := by
  obtain ⟨a, b, c, d, e, hcut, hlengths, hjoin⟩ := exists_groups (@length_digits id)
  have htext : id.text.toList = ['-'].intercalate [a, b, c, d, e] := by
    rw [text, hcut, String.toList_intercalate, List.map_map]
    simp
  have hhyphen : ∀ part ∈ [a, b, c, d, e], '-' ∉ part := by
    have hall : '-' ∉ a ++ b ++ c ++ d ++ e := by
      rw [hjoin]
      exact not_mem_digits fun k hk => (digit_ne k hk).1
    simp only [List.mem_append, not_or] at hall
    simpa [and_assoc] using hall
  obtain ⟨first, cs, hfirst, hdigit⟩ :
      ∃ first cs, id.text.toList = first :: cs ∧ first ∈ id.digits := by
    rw [htext]
    rcases a with _ | ⟨first, a⟩
    · cases hlengths
    · exact ⟨first, _, rfl, hjoin ▸ by simp⟩
  obtain ⟨k, hk, rfl⟩ := Text.Hex.exists_digit hdigit
  have hlength : id.text.toList.length ≠ 32 := by
    have hsum : id.text.toList.length =
        a.length + b.length + c.length + d.length + e.length + 4 := by
      rw [htext]
      simp [List.intercalate]
      omega
    simp only [List.map_cons, List.map_nil, groups, List.cons.injEq, and_true] at hlengths
    omega
  rw [ofText?_of_digit hk hfirst hlength, htext, ofHyphenated?_intercalate hlengths hhyphen, hjoin,
    ofDigits?_digits]

end Identifier

end Provisioning
