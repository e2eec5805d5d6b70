import Mathlib.Tactic.Common
import Provisioning.Crypto.Gcm
import Provisioning.Crypto.KeyDerivation

/-!
# Encryption is undone

A key of thirty-two bytes gives fifteen round keys of a block each (`length_of_mem_roundKeys`), so
that whatever is encrypted has the length of a block. The mask of a message is then as long as the
message, which masking twice gives back, and a payload comes apart where it was put together
(`decrypt?_encrypt`).
-/

namespace Provisioning.Crypto

theorem Sha256.length_hash {message : List UInt8} : (Sha256.hash message).length = 32 :=
  rfl

theorem length_deriveKey {master context : List UInt8} : (deriveKey master context).length = 32 :=
  Sha256.length_hash

namespace Aes

variable {a b key block word : List UInt8} {ws keys : List (List UInt8)} {i : Nat}

theorem length_add : (add a b).length = min a.length b.length :=
  List.length_zipWith

/-- What is added twice cancels out. -/
theorem add_add_cancel : ∀ {a b : List UInt8}, a.length ≤ b.length → add (add a b) b = a
  | [], _, _ => by simp [add]
  | _ :: _, [], h => by simp at h
  | x :: a, y :: b, h => by
    have ih := add_add_cancel (Nat.le_of_succ_le_succ h)
    simp only [add, List.zipWith_cons_cons] at ih ⊢
    rw [ih, UInt8.xor_assoc, UInt8.xor_self, UInt8.xor_zero]

section Keys

theorem length_words : ∀ {bytes : List UInt8}, (words bytes).length = bytes.length / 4
  | [] => rfl
  | [_] | [_, _] | [_, _, _] => by simp [words]
  | _ :: _ :: _ :: _ :: bytes => by
    simp only [words, List.length_cons, @length_words bytes]
    omega

theorem length_of_mem_words : ∀ {bytes : List UInt8}, ∀ w ∈ words bytes, w.length = 4
  | [], _, h | [_], _, h | [_, _], _, h | [_, _, _], _, h => by simp [words] at h
  | _ :: _ :: _ :: _ :: _, w, h => by
    rcases List.mem_cons.1 h with rfl | h
    · rfl
    · exact length_of_mem_words w h

theorem length_rotateWord : (rotateWord word).length = word.length := by
  rcases word with _ | ⟨x, word⟩
  · rfl
  · simp [rotateWord]

theorem length_getD (h : ∀ w ∈ ws, w.length = 4) (hi : i < ws.length) :
    (ws.getD i []).length = 4 := by
  rw [List.getD_eq_getElem?_getD, List.getElem?_eq_getElem hi, Option.getD_some]
  exact h _ (List.getElem_mem hi)

theorem length_nextWord (h : ∀ w ∈ ws, w.length = 4) (hlength : 8 ≤ ws.length) :
    (nextWord ws i).length = 4 := by
  have hlast : (ws.getD 0 []).length = 4 := length_getD h (by omega)
  have hbefore : (ws.getD 7 []).length = 4 := length_getD h (by omega)
  unfold nextWord
  simp only
  rw [length_add, hbefore]
  split_ifs
  · rw [length_add, List.length_map, length_rotateWord, hlast]
    rfl
  · rw [List.length_map, hlast, Nat.min_self]
  · rw [hlast, Nat.min_self]

/-- Each step of the schedule adds a word of four bytes to those that are there. -/
theorem foldl_nextWord : ∀ {is : List Nat} {ws : List (List UInt8)}, (∀ w ∈ ws, w.length = 4) →
    8 ≤ ws.length →
      let ws' := is.foldl (fun ws i => nextWord ws (i + 8) :: ws) ws
      (∀ w ∈ ws', w.length = 4) ∧ ws'.length = ws.length + is.length
  | [], _, h, _ => ⟨h, rfl⟩
  | i :: is, ws, h, hlength => by
    have hnext := @foldl_nextWord is (nextWord ws (i + 8) :: ws)
      (List.forall_mem_cons.2 ⟨length_nextWord h hlength, h⟩) (Nat.le_succ_of_le hlength)
    refine ⟨hnext.1, hnext.2.trans ?_⟩
    rw [List.length_cons, List.length_cons]
    omega

theorem schedule_words (hkey : key.length = 32) :
    (∀ w ∈ schedule key, w.length = 4) ∧ (schedule key).length = 60 := by
  have hstart : (words key).reverse.length = 8 := by
    rw [List.length_reverse, length_words, hkey]
  obtain ⟨hwords, hlength⟩ := @foldl_nextWord (List.range 52) (words key).reverse
    (fun w hw => length_of_mem_words w (List.mem_reverse.1 hw)) (Nat.le_of_eq hstart.symm)
  refine ⟨fun w hw => hwords w (List.mem_reverse.1 hw), ?_⟩
  rw [schedule, List.length_reverse, hlength, hstart, List.length_range]

theorem length_flatten {n : Nat} (h : ∀ w ∈ ws, w.length = n) :
    ws.flatten.length = ws.length * n := by
  have hlengths : ws.map List.length = List.replicate (ws.map List.length).length n :=
    List.eq_replicate_of_mem fun m hm => by
      obtain ⟨w, hw, rfl⟩ := List.mem_map.1 hm
      exact h w hw
  rw [List.length_flatten, hlengths, List.sum_replicate_nat, List.length_map]

theorem length_of_mem_roundKeys (hkey : key.length = 32) : ∀ k ∈ roundKeys key, k.length = 16 := by
  obtain ⟨hwords, hlength⟩ := schedule_words hkey
  intro k hk
  obtain ⟨r, hr, rfl⟩ := List.mem_map.1 hk
  have hr : r < 15 := List.mem_range.1 hr
  rw [length_flatten (n := 4) fun w hw => hwords w (List.mem_of_mem_drop (List.mem_of_mem_take hw)),
    List.length_take, List.length_drop, hlength]
  omega

end Keys

/-- Whatever is encrypted, a block comes out. -/
theorem length_encryptWith (hkeys : ∀ k ∈ keys, k.length = 16) (hlength : 2 ≤ keys.length) :
    (encryptWith keys block).length = 16 := by
  rcases keys with _ | ⟨first, _ | ⟨second, rest⟩⟩
  · simp at hlength
  · simp at hlength
  · have hlast : (rest.getLastD second).length = 16 :=
      hkeys _ (List.mem_cons_of_mem _ List.getLastD_mem_cons)
    rw [encryptWith, lastRound, length_add, List.getLastD_cons, hlast, shiftRows, List.length_map]
    rfl

theorem length_encryptWith_roundKeys (hkey : key.length = 32) :
    (encryptWith (roundKeys key) block).length = 16 :=
  length_encryptWith (length_of_mem_roundKeys hkey) (by simp [roundKeys])

end Aes

namespace Gcm

variable {key nonce message masked : List UInt8}

theorem length_bytesOf {count n : Nat} : (bytesOf count n).length = count := by
  simp [bytesOf]

theorem length_mask (hkey : key.length = 32) {length : Nat} :
    (mask (Aes.roundKeys key) nonce length).length = length := by
  have hblocks : ((List.range ((length + 15) / 16)).flatMap fun i =>
      Aes.encryptWith (Aes.roundKeys key) (counterBlock nonce (i + 2))).length =
        (length + 15) / 16 * 16 := by
    rw [List.flatMap, Aes.length_flatten (n := 16), List.length_map, List.length_range]
    intro block hblock
    obtain ⟨i, -, rfl⟩ := List.mem_map.1 hblock
    exact Aes.length_encryptWith_roundKeys hkey
  rw [mask, List.length_take, hblocks]
  omega

theorem length_applyMask (hkey : key.length = 32) :
    (applyMask (Aes.roundKeys key) nonce message).length = message.length := by
  rw [applyMask, Aes.length_add, length_mask hkey, Nat.min_self]

/-- Masking twice gives a message back. -/
theorem applyMask_applyMask (hkey : key.length = 32) :
    applyMask (Aes.roundKeys key) nonce (applyMask (Aes.roundKeys key) nonce message) =
      message := by
  rw [applyMask, length_applyMask hkey, applyMask]
  exact Aes.add_add_cancel (Nat.le_of_eq (length_mask hkey).symm)

theorem length_tag (hkey : key.length = 32) :
    (tag (Aes.roundKeys key) nonce masked).length = tagLength := by
  rw [tag, Aes.length_add, Aes.length_encryptWith_roundKeys hkey, length_bytesOf]
  rfl

/-- An encrypted message is decrypted to the message. -/
theorem decrypt?_encrypt (hkey : key.length = 32) :
    decrypt? key nonce (encrypt key nonce message) = some message := by
  let masked := applyMask (Aes.roundKeys key) nonce message
  have hsplit : (encrypt key nonce message).length - tagLength = masked.length := by
    rw [encrypt, List.length_append, length_tag hkey, Nat.add_sub_cancel]
  have htake : (encrypt key nonce message).take masked.length = masked := List.take_left
  have hdrop : (encrypt key nonce message).drop masked.length =
      tag (Aes.roundKeys key) nonce masked := List.drop_left
  unfold decrypt?
  simp only
  rw [hsplit, htake, hdrop, if_pos rfl, applyMask_applyMask hkey]

end Gcm

end Provisioning.Crypto
