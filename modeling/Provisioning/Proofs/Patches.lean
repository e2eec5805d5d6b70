import Provisioning.Proofs.Collections
import Provisioning.Proofs.Tables

/-!
# What a difference does

Putting the difference of two sets over the one that is to change leaves nothing that differs, and
putting over it only a part of the difference leaves exactly the rest (`difference_overwrite`), so
that nothing in a difference can be spared. This does not need that a value is the same as itself:
two values that hold NaN are equivalent when they are one value (`equivalent_refl`).

Which attributes differ depends on what the other set has under the names of these, and on nothing
else it has (`difference_congr`).
-/

namespace Provisioning

theorem AttributeValue.equivalent_refl (v : AttributeValue) : v.equivalent v :=
  (Alike.refl v.values).equivalent

namespace AttributeSet

variable {s other part patch wanted current : AttributeSet} {name : String} {v : AttributeValue}

/-- A set with the attributes of another one in place of its own. -/
def overwrite (s patch : AttributeSet) : AttributeSet :=
  patch.entries.foldl (fun all entry => all.set entry.1 entry.2) s

theorem get?_foldl_set : ∀ {entries : List (String × AttributeValue)} {s : AttributeSet},
    (Keyed.keys entries).Nodup →
    (entries.foldl (fun all entry => all.set entry.1 entry.2) s).get? name =
      (entries.lookup name).or (s.get? name)
  | [], _, _ => rfl
  | (key, value) :: rest, s, h => by
    obtain ⟨hkey, hrest⟩ := List.nodup_cons.1 h
    rw [List.foldl_cons, get?_foldl_set hrest, get?_set, Keyed.lookup_cons]
    by_cases hn : name = key
    · -- The name does not come again, so that nothing is put over the value.
      have hnone : rest.lookup key = none := by
        refine List.lookup_eq_none_iff.2 fun entry hentry => bne_iff_ne.2 fun he => ?_
        exact hkey (List.mem_map.2 ⟨entry, hentry, he.symm⟩)
      simp [hn, hnone]
    · simp [hn]

theorem get?_overwrite : (s.overwrite patch).get? name = (patch.get? name).or (s.get? name) :=
  get?_foldl_set patch.nodup

theorem has_difference (h : s.get? name = some v) :
    (s.difference other).has name = !other.holds name v := by
  rcases hh : other.holds name v with _ | _
  · rw [has, get?_difference.2 ⟨h, hh⟩]
    rfl
  · refine Option.isSome_eq_false_iff.2 (Option.isNone_iff_eq_none.2 ?_)
    refine Option.eq_none_iff_forall_ne_some.2 fun w hw => ?_
    obtain ⟨hw, hw'⟩ := get?_difference.1 hw
    obtain rfl : v = w := Option.some.inj (h.symm.trans hw)
    rw [hh] at hw'
    cases hw'

/-- When a part of a difference has been put over a set, the rest of the difference is left. -/
theorem difference_overwrite (h : part.entries ⊆ (wanted.difference current).entries) :
    wanted.difference (current.overwrite part) =
      (wanted.difference current).filter fun entry => !part.has entry.1 := by
  rw [difference_eq, difference_eq]
  refine ext_entries ?_
  simp only [filter, List.filter_filter]
  refine List.filter_congr fun entry he => ?_
  obtain ⟨name, v⟩ := entry
  rw [holds, get?_overwrite, has]
  rcases hp : part.get? name with _ | w
  · simp [holds]
  · obtain ⟨hw, -⟩ := get?_difference.1 (mem_entries_iff.1 (h (mem_entries_iff.2 hp)))
    obtain rfl : v = w := Option.some.inj ((mem_entries_iff.1 he).symm.trans hw)
    simp [AttributeValue.equivalent_refl]

/-- A part of a difference leaves nothing of it exactly if it is all of it. -/
theorem isEmpty_difference_overwrite_iff
    (h : part.entries ⊆ (wanted.difference current).entries) :
    (wanted.difference (current.overwrite part)).isEmpty ↔
      (wanted.difference current).entries ⊆ part.entries := by
  rw [difference_overwrite h, isEmpty, filter, List.isEmpty_iff, List.filter_eq_nil_iff]
  constructor
  · rintro hall ⟨name, v⟩ he
    have hhas : part.has name := by simpa using hall (name, v) he
    obtain ⟨w, hw⟩ := Option.isSome_iff_exists.1 hhas
    have hd := mem_entries_iff.1 (h (mem_entries_iff.2 hw))
    obtain rfl : v = w := Option.some.inj ((mem_entries_iff.1 he).symm.trans hd)
    exact mem_entries_iff.2 hw
  · rintro hsub ⟨name, v⟩ he
    simp [has, mem_entries_iff.1 (hsub he)]

/-- Nothing that is wanted is left to do once the difference has been put over the current set, and
something is when only a proper part of it has. What the current set has under names that are not
wanted has no effect on the difference. -/
theorem difference_converges (wanted current : AttributeSet) :
    let d := wanted.difference current
    (wanted.difference (current.overwrite d)).isEmpty ∧
      (∀ part : AttributeSet, part.entries ⊆ d.entries → ¬d.entries ⊆ part.entries →
        ¬(wanted.difference (current.overwrite part)).isEmpty) ∧
      wanted.difference (current.restrictedTo wanted) = d ∧
      ∀ other : AttributeSet, (∀ name, wanted.has name → other.get? name = current.get? name) →
        wanted.difference other = d := by
  intro d
  refine ⟨?_, fun part hpart hproper => ?_, difference_restrictedTo wanted current,
    fun other => difference_congr⟩
  · exact (isEmpty_difference_overwrite_iff (List.Subset.refl _)).2 (List.Subset.refl _)
  · rwa [isEmpty_difference_overwrite_iff hpart]

/-- A double that is not a number. -/
def notANumber : AttributeValue :=
  .float ⟨0x7FF8000000000000⟩

theorem difference_converges_notANumber :
    let wanted := ofList [("cn", .string "ann"), ("ratio", notANumber)]
    let current := ofList [("ratio", .float ⟨0⟩), ("phone", .string "555")]
    let part := ofList [("ratio", notANumber)]
    (part.entries ⊆ (wanted.difference current).entries ∧
      ¬(wanted.difference current).entries ⊆ part.entries) ∧
      ¬(wanted.difference (current.overwrite part)).isEmpty := by
  intro wanted current part
  have hd : (wanted.difference current).entries = wanted.entries := rfl
  have hpart : part.entries ⊆ (wanted.difference current).entries :=
    hd ▸ List.subset_cons_self ("cn", AttributeValue.string "ann") part.entries
  have hproper : ¬(wanted.difference current).entries ⊆ part.entries := by
    intro hsub
    have hmem : ("cn", AttributeValue.string "ann") ∈ part.entries :=
      hsub (hd ▸ List.mem_cons_self)
    have hnone : part.get? "cn" = none := rfl
    rw [mem_entries_iff, hnone] at hmem
    cases hmem
  exact ⟨⟨hpart, hproper⟩, (difference_converges wanted current).2.1 part hpart hproper⟩

end AttributeSet

end Provisioning
