/-!
# Values under keys

A table is a list of keys with their values, in the order in which the keys came; putting a value
under a key that is there replaces the value and keeps the place. Looking up is `List.lookup`.
-/

namespace Provisioning.Keyed

variable {κ α : Type} [DecidableEq κ]

def keys (entries : List (κ × α)) : List κ :=
  entries.map Prod.fst

/-- Puts a value under a key, in place of the one there or at the end. -/
def put (key : κ) (value : α) : List (κ × α) → List (κ × α)
  | [] => [(key, value)]
  | entry :: rest => if entry.1 = key then (key, value) :: rest else entry :: put key value rest

/-- The table without a key. -/
def erase (key : κ) (entries : List (κ × α)) : List (κ × α) :=
  entries.filter fun entry => decide (entry.1 ≠ key)

theorem mem_keys_put {key x : κ} {value : α} {entries : List (κ × α)} :
    x ∈ keys (put key value entries) ↔ x = key ∨ x ∈ keys entries := by
  induction entries with
  | nil => simp [put, keys]
  | cons entry rest ih =>
    unfold put
    split
    · simp_all [keys]
    · simp only [keys, List.map_cons, List.mem_cons] at ih ⊢
      rw [ih]
      constructor <;> rintro (h | h | h) <;> simp [h]

theorem nodup_keys_put {key : κ} {value : α} {entries : List (κ × α)}
    (h : (keys entries).Nodup) : (keys (put key value entries)).Nodup := by
  induction entries with
  | nil => simp [put, keys]
  | cons entry rest ih =>
    have hc : entry.1 ∉ keys rest ∧ (keys rest).Nodup := List.nodup_cons.mp h
    unfold put
    split
    · rename_i hn
      exact List.nodup_cons.mpr ⟨hn ▸ hc.1, hc.2⟩
    · rename_i hn
      refine List.nodup_cons.mpr ⟨fun hm => ?_, ih hc.2⟩
      rcases mem_keys_put.mp hm with h | h
      · exact hn h
      · exact hc.1 h

end Provisioning.Keyed
