import Provisioning.Proofs.Comparisons

/-!
# Equivalence as equality of collections

A value can be written in other ways without another single value in it: its items in another order,
a null among them or not, an array in place of its items, an array of one in place of the item.
Two values are written so of one another exactly if their lists of single values are permutations of
one another (`reshaped_iff`), and no comparison can tell them apart.

Where a value holds no NaN it is equivalent to the values whose single values are the same as its
own, one by one, in some order (`equivalent_iff_rearranged`). So among such values equivalence is
equality of collections (`equivalent_multiset`).
-/

namespace Provisioning.AttributeValue

variable {a b c v w : AttributeValue} {vs ws : List AttributeValue}

section Reshaped

/-- Ways to write the same single values: an array of one as the value itself, with nulls among the
items or without, an array among the items or its items there, the items in any order, and each item
written in other ways itself. -/
inductive Reshaped : AttributeValue → AttributeValue → Prop
  | refl (v : AttributeValue) : Reshaped v v
  | symm {v w : AttributeValue} : Reshaped v w → Reshaped w v
  | trans {u v w : AttributeValue} : Reshaped u v → Reshaped v w → Reshaped u w
  | single (v : AttributeValue) : Reshaped (.array [v]) v
  | null (vs : List AttributeValue) : Reshaped (.array (.null :: vs)) (.array vs)
  | nested (us vs : List AttributeValue) :
    Reshaped (.array (.array us :: vs)) (.array (us ++ vs))
  | order {vs ws : List AttributeValue} : vs.Perm ws → Reshaped (.array vs) (.array ws)
  | items {v w : AttributeValue} {vs ws : List AttributeValue} : Reshaped v w →
    Reshaped (.array vs) (.array ws) → Reshaped (.array (v :: vs)) (.array (w :: ws))

theorem values_array (vs : List AttributeValue) : (array vs).values = vs.flatMap values := by
  show valuesOf vs = _
  induction vs with
  | nil => rfl
  | cons v vs ih => rw [valuesOf, List.flatMap_cons, ih]

theorem Reshaped.perm (h : v.Reshaped w) : v.values.Perm w.values := by
  induction h with
  | refl v => exact .refl _
  | symm _ ih => exact ih.symm
  | trans _ _ ih₁ ih₂ => exact ih₁.trans ih₂
  | single v =>
    rw [values_array, List.flatMap_singleton]
  | null vs =>
    rw [values_array, values_array, List.flatMap_cons]
    exact .refl _
  | nested us vs =>
    rw [values_array, values_array, List.flatMap_cons, List.flatMap_append, values_array]
  | order h =>
    rw [values_array, values_array]
    exact h.flatMap_right values
  | items _ _ ih₁ ih₂ =>
    rw [values_array, values_array, List.flatMap_cons, List.flatMap_cons]
    rw [values_array, values_array] at ih₂
    exact ih₁.append ih₂

theorem reshaped_array (h : ∀ v ∈ vs, v.Reshaped (.array v.values)) :
    (array vs).Reshaped (.array (array vs).values) := by
  induction vs with
  | nil => exact .refl _
  | cons v vs ih =>
    obtain ⟨hv, hvs⟩ := List.forall_mem_cons.1 h
    exact .trans (.items hv (ih hvs)) (.nested _ _)

/-- Every value can be written as the array of its single values. -/
theorem reshaped_values : ∀ v : AttributeValue, v.Reshaped (.array v.values)
  | .null => .trans (.symm (.single .null)) (.null [])
  | .array vs => reshaped_array fun v _ => reshaped_values v
  | .string _ => .symm (.single _)
  | .integer _ => .symm (.single _)
  | .boolean _ => .symm (.single _)
  | .float _ => .symm (.single _)
  | .binary _ => .symm (.single _)

/-- The ways to write a value are those in which its single values stay, in whatever order. -/
theorem reshaped_iff : v.Reshaped w ↔ v.values.Perm w.values :=
  ⟨Reshaped.perm, fun h =>
    .trans (.trans (reshaped_values v) (.order h)) (.symm (reshaped_values w))⟩

/-- Whether two values are equivalent does not depend on how either is written. -/
theorem Reshaped.equivalent_eq {v' w' : AttributeValue} (hv : v.Reshaped v') (hw : w.Reshaped w') :
    v.equivalent w = v'.equivalent w' := by
  have hlike : Alike v.values v'.values := .of_perm hv.perm
  have hlike' : Alike w.values w'.values := .of_perm hw.perm
  rw [equivalent, equivalent, hlike.length, hlike'.length, hv.perm.all_eq]
  simp only [hlike.occurrences, hlike'.occurrences]

end Reshaped

section Rearranged

/-- Lists that are permutations of one another up to sameness. -/
def Rearranged (vs ws : List AttributeValue) : Prop :=
  ∃ us, List.Forall₂ (fun v u => v.same u = true) vs us ∧ us.Perm ws

theorem Rearranged.alike (h : Rearranged vs ws) : Alike vs ws := by
  obtain ⟨us, hsame, hperm⟩ := h
  exact .trans ⟨hsame.length_eq, fun _ => occurrences_of_forall₂ hsame⟩ (.of_perm hperm)

/-- Without NaN nothing stands in the place of another value. -/
theorem Covers.rearranged (h : a.Covers b) (ha : a.nans = 0) : Rearranged a.values b.values := by
  obtain ⟨matched, rest, hperm, hmatched, hlength, -⟩ := h
  obtain rfl : rest = [] := List.length_eq_zero_iff.1 (hlength.trans ha)
  have hall : (a.values.filter fun v => !v.isNaN) = a.values := by
    refine List.filter_eq_self.2 fun v hv => ?_
    simpa using List.countP_eq_zero.1 ha v hv
  rw [hall] at hmatched
  rw [List.append_nil] at hperm
  exact ⟨matched, hmatched, hperm.symm⟩

theorem equivalent_iff_rearranged (ha : a.nans = 0) :
    a.equivalent b ↔ Rearranged a.values b.values :=
  ⟨fun h => (equivalent_iff.1 h).rearranged ha, fun h => h.alike.equivalent⟩

theorem nans_eq_zero_of_equivalent (ha : a.nans = 0) (h : a.equivalent b) : b.nans = 0 :=
  Nat.le_zero.1 (ha ▸ (equivalent_iff.1 h).nans_le)

theorem equivalent_symm (ha : a.nans = 0) (h : a.equivalent b) : b.equivalent a :=
  (equivalent_comm_iff h).2 ((nans_eq_zero_of_equivalent ha h).trans ha.symm)

theorem equivalent_trans (ha : a.nans = 0) (hab : a.equivalent b) (hbc : b.equivalent c) :
    a.equivalent c := by
  have hb := nans_eq_zero_of_equivalent ha hab
  have hab' := ((equivalent_iff_rearranged ha).1 hab).alike
  have hbc' := ((equivalent_iff_rearranged hb).1 hbc).alike
  exact (hab'.trans hbc').equivalent

/-- A value without NaN is equivalent to exactly those whose single values are a permutation of its
own up to sameness. So among such values equivalence is reflexive, symmetric and transitive, and it
does not see in which of the ways to write them the values are written. -/
theorem equivalent_multiset (ha : a.nans = 0) :
    (a.equivalent b ↔ Rearranged a.values b.values) ∧
      a.equivalent a ∧
      (a.equivalent b → b.equivalent a) ∧
      (a.equivalent b → b.equivalent c → a.equivalent c) ∧
      ∀ a' b', a.Reshaped a' → b.Reshaped b' →
        a.equivalent a' ∧ a.equivalent b = a'.equivalent b' := by
  refine ⟨equivalent_iff_rearranged ha, equivalent_refl a, equivalent_symm ha, equivalent_trans ha,
    fun a' b' ha' hb' => ⟨?_, ha'.equivalent_eq hb'⟩⟩
  exact (Alike.of_perm ha'.perm).equivalent

/-- Zero with either sign, once more nested and in another place. -/
theorem equivalent_multiset_zeros :
    let a := array [.float ⟨0⟩, .array [.null, .string "x"], .string "x"]
    let b := array [.string "x", .array [.float ⟨0x8000000000000000⟩], .string "x"]
    a.nans = 0 ∧ a.equivalent b ∧ b.equivalent a ∧ Rearranged a.values b.values ∧
      a.values ≠ b.values := by
  intro a b
  have ha : a.nans = 0 := by decide
  have hab : a.equivalent b := by decide
  obtain ⟨hiff, -, hsymm, -⟩ := @equivalent_multiset a b a ha
  refine ⟨ha, hab, hsymm hab, hiff.1 hab, fun h => ?_⟩
  cases h

end Rearranged

end Provisioning.AttributeValue
