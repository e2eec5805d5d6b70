import Mathlib.Tactic.Common
import Provisioning.Attribute.Set

/-!
# Looking up in tables

What looking up finds after a table was changed. As each name stands once in an attribute set, the
entries are what is found under their names (`mem_entries_iff`), so that sets can be compared by
looking up: nothing differs exactly if every value is found again (`isEmpty_difference_iff`).
-/

namespace Provisioning

namespace Keyed

variable {κ α : Type} [DecidableEq κ] {key x : κ} {value : α} {entries : List (κ × α)}

theorem lookup_cons {rest : List (κ × α)} :
    ((key, value) :: rest).lookup x = if x = key then some value else rest.lookup x := by
  by_cases h : x = key
  · simp [h]
  · have hb : (x == key) = false := beq_eq_false_iff_ne.2 h
    simp [List.lookup_cons, hb, h]

theorem lookup_put :
    (put key value entries).lookup x = if x = key then some value else entries.lookup x := by
  induction entries with
  | nil => rw [put, lookup_cons]
  | cons entry rest ih =>
    obtain ⟨k, v⟩ := entry
    unfold put
    by_cases hk : k = key
    · subst hk
      rw [if_pos rfl, lookup_cons, lookup_cons]
      split_ifs <;> rfl
    · rw [if_neg hk, lookup_cons, lookup_cons, ih]
      split_ifs <;> simp_all

theorem lookup_filter_fst (p : κ → Bool) :
    (entries.filter fun entry => p entry.1).lookup x =
      if p x then entries.lookup x else none := by
  induction entries with
  | nil => simp
  | cons entry rest ih =>
    obtain ⟨k, v⟩ := entry
    by_cases hx : x = k
    · subst hx
      by_cases hp : p x
      · rw [List.filter_cons_of_pos (by exact hp), lookup_cons, if_pos rfl, if_pos hp, lookup_cons,
          if_pos rfl]
      · rw [List.filter_cons_of_neg (by exact hp), ih, if_neg hp, if_neg hp]
    · by_cases hp : p k
      · rw [List.filter_cons_of_pos (by exact hp), lookup_cons, if_neg hx, ih, lookup_cons,
          if_neg hx]
      · rw [List.filter_cons_of_neg (by exact hp), ih, lookup_cons, if_neg hx]

theorem lookup_erase : (erase key entries).lookup x = if x = key then none else entries.lookup x := by
  rw [erase, lookup_filter_fst fun k => decide (k ≠ key)]
  by_cases h : x = key <;> simp [h]

theorem mem_of_lookup (h : entries.lookup key = some value) : (key, value) ∈ entries := by
  obtain ⟨before, after, rfl, -⟩ := List.lookup_eq_some_iff.1 h
  simp

theorem lookup_of_mem (hn : (keys entries).Nodup) (h : (key, value) ∈ entries) :
    entries.lookup key = some value := by
  induction entries with
  | nil => simp at h
  | cons entry rest ih =>
    obtain ⟨k, v⟩ := entry
    obtain ⟨hk, hr⟩ := List.nodup_cons.1 hn
    rw [lookup_cons]
    rcases List.mem_cons.1 h with he | hm
    · obtain ⟨rfl, rfl⟩ := Prod.mk.inj he
      exact if_pos rfl
    · rw [if_neg, ih hr hm]
      rintro rfl
      exact hk (List.mem_map.2 ⟨_, hm, rfl⟩)

end Keyed

namespace AttributeSet

variable {s other : AttributeSet} {name x : String} {value v : AttributeValue}

theorem ext_entries (h : s.entries = other.entries) : s = other := by
  cases s
  cases other
  simpa using h

theorem mem_entries_iff : (name, value) ∈ s.entries ↔ s.get? name = some value :=
  ⟨Keyed.lookup_of_mem s.nodup, Keyed.mem_of_lookup⟩

theorem get?_set : (s.set name value).get? x = if x = name then some value else s.get? x :=
  Keyed.lookup_put

theorem get?_restrictedTo :
    (s.restrictedTo other).get? x = if other.has x then s.get? x else none :=
  Keyed.lookup_filter_fst fun n => other.has n

theorem get?_erase : (s.erase name).get? x = if x = name then none else s.get? x := by
  rw [erase, filter, get?, Keyed.lookup_filter_fst fun n => n != name]
  by_cases h : x = name <;> simp [h, get?]

/-- Whether a set has an attribute with values like these. -/
def holds (s : AttributeSet) (name : String) (value : AttributeValue) : Bool :=
  match s.get? name with
  | some there => there.equivalent value
  | none => false

theorem difference_eq (s other : AttributeSet) :
    s.difference other = s.filter fun e => !other.holds e.1 e.2 := by
  unfold difference holds
  congr 1
  funext e
  rcases other.get? e.1 with _ | there <;> rfl

theorem get?_difference : (s.difference other).get? name = some v ↔
    s.get? name = some v ∧ other.holds name v = false := by
  rw [← mem_entries_iff, difference_eq, filter, List.mem_filter, mem_entries_iff, Bool.not_eq_true']

/-- Nothing differs exactly when every attribute is there with values like its own. -/
theorem isEmpty_difference_iff :
    (s.difference other).isEmpty ↔ ∀ name v, s.get? name = some v → other.holds name v := by
  rw [difference_eq, isEmpty, filter, List.isEmpty_iff, List.filter_eq_nil_iff]
  constructor
  · intro h name v hv
    simpa using h _ (mem_entries_iff.2 hv)
  · rintro h ⟨name, v⟩ he
    simpa using h name v (mem_entries_iff.1 he)

/-- What differs is decided by what the other set has under the names of the attributes. -/
theorem difference_congr {current : AttributeSet}
    (h : ∀ name, s.has name → other.get? name = current.get? name) :
    s.difference other = s.difference current := by
  refine ext_entries (List.filter_congr fun e he => ?_)
  have hs : s.has e.1 := by
    rw [has, mem_entries_iff.1 (show (e.1, e.2) ∈ s.entries from he)]
    rfl
  rw [h e.1 hs]

/-- Comparing with the attributes of the same names is comparing with all. -/
theorem difference_restrictedTo (s other : AttributeSet) :
    s.difference (other.restrictedTo s) = s.difference other :=
  difference_congr fun name hs => by rw [get?_restrictedTo, if_pos hs]

/-- An attribute that is there with values like its own can be left out of a comparison. -/
theorem difference_erase (hv : s.get? name = some v) (h : other.holds name v) :
    (s.erase name).difference other = s.difference other := by
  rw [difference_eq, difference_eq]
  refine ext_entries ?_
  simp only [filter, erase, List.filter_filter]
  refine List.filter_congr fun e he => ?_
  by_cases hn : e.1 = name
  · have hev : s.get? e.1 = some e.2 := mem_entries_iff.1 he
    rw [hn, hv] at hev
    simp [hn, ← Option.some.inj hev, h]
  · simp [hn]

end AttributeSet

end Provisioning
