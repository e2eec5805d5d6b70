import Mathlib.Tactic.Common
import Provisioning.Password.Policy

/-!
# What a merged policy asks for

The merged policy keeps every length, every required class, everything that is ruled out at an end
and every forbidden way to start or end. What several policies ask for at an end becomes a choice,
so that a password may have there what only one of them wants. That is all that gets lost: a
password that complies with the merged policy complies with one of the policies exactly if its ends
are of the classes that this one asks for (`complies_iff_of_merge`), as they are when no other policy asks
for others (`complies_of_within`).
-/

namespace Provisioning

namespace Placement

variable {p q : Placement} {l : List Placement} {k : CharacterClass}

/-- Whether the class at an end is one of those asked for, if any are. -/
def isMetBy (p : Placement) (k : Option CharacterClass) : Bool :=
  !p.demands || k.any p.must

/-- Nothing is asked for that another placement, if it asks for anything, does not ask for. -/
def Within (p q : Placement) : Prop :=
  q.demands → ∀ k, p.must k → q.must k

/-- All placements of a list in one. -/
def unionAll (l : List Placement) : Placement :=
  l.foldl union free

/-- What holds of the union of two exactly if it holds of one of them, holds of the union of many
exactly if it holds of one of these. -/
theorem foldl_union {f : Placement → Bool} (hf : ∀ p q, f (p.union q) = (f p || f q)) :
    ∀ {l : List Placement} {p : Placement}, f (l.foldl union p) = (f p || l.any f)
  | [], p => by simp
  | q :: l, p => by rw [List.foldl_cons, foldl_union hf, hf, List.any_cons, Bool.or_assoc]

theorem must_unionAll : (unionAll l).must k = l.any fun p => p.must k := by
  refine (foldl_union (f := fun p => p.must k) fun p q => ?_).trans ?_ <;> cases k <;> rfl

theorem mustnt_unionAll : (unionAll l).mustnt k = l.any fun p => p.mustnt k := by
  refine (foldl_union (f := fun p => p.mustnt k) fun p q => ?_).trans ?_ <;> cases k <;> rfl

theorem demands_unionAll : (unionAll l).demands = l.any demands := by
  refine (foldl_union fun p q => ?_).trans rfl
  simp only [demands, union]
  ac_rfl

theorem forbids_unionAll : (unionAll l).forbids = l.any forbids := by
  refine (foldl_union fun p q => ?_).trans rfl
  simp only [forbids, union]
  ac_rfl

theorem limits_unionAll (hp : p ∈ l) (h : p.demands || p.forbids) :
    (unionAll l).demands || (unionAll l).forbids := by
  rw [demands_unionAll, forbids_unionAll, Bool.or_eq_true, List.any_eq_true, List.any_eq_true]
  exact (Bool.or_eq_true_iff.1 h).imp (fun hd => ⟨p, hp, hd⟩) fun hf => ⟨p, hp, hf⟩

/-- A class that the union allows is ruled out by none of its parts. -/
theorem mustnt_of_unionAll (hp : p ∈ l) (h : (unionAll l).allows k) : p.mustnt k = false := by
  rw [allows, mustnt_unionAll, Bool.and_eq_true, Bool.not_eq_true', List.any_eq_false] at h
  simpa using h.2 p hp

/-- A class that the union allows is asked for by a part that asks for something, when the others
ask for nothing else. -/
theorem must_of_unionAll (hp : p ∈ l) (hw : ∀ q ∈ l, q.Within p) (hd : p.demands)
    (h : (unionAll l).allows k) : p.must k := by
  have hdu : (unionAll l).demands := by
    rw [demands_unionAll]
    exact List.any_eq_true.2 ⟨p, hp, hd⟩
  rw [allows, hdu, must_unionAll, Bool.and_eq_true, Bool.not_true, Bool.false_or,
    List.any_eq_true] at h
  obtain ⟨q, hq, hqk⟩ := h.1
  exact hw q hq hd k hqk

end Placement

namespace PasswordPolicy

section Ends

open Placement

variable {p : Placement} {l : List Placement} {k : Option CharacterClass}

theorem fits_iff : fits k p ↔ ((p.demands || p.forbids) → ∃ c, k = some c ∧ p.allows c) := by
  unfold fits classes?
  by_cases h : p.demands || p.forbids
  · rcases k with _ | c
    · simp [h]
    · have hall : c ∈ CharacterClass.all := by cases c <;> decide
      simp [h, hall]
  · simp [h]

/-- What fits a union of placements fits one of them exactly if it is what this one asks for. -/
theorem fits_iff_of_unionAll (hp : p ∈ l) (h : fits k (unionAll l)) : fits k p ↔ p.isMetBy k := by
  rw [fits_iff]
  by_cases hlimits : p.demands || p.forbids
  · obtain ⟨c, rfl, hc⟩ := fits_iff.1 h (limits_unionAll hp hlimits)
    simp [hlimits, allows, isMetBy, mustnt_of_unionAll hp hc]
  · have hd : p.demands = false := by
      simp only [Bool.or_eq_true, not_or, Bool.not_eq_true] at hlimits
      exact hlimits.1
    simp only [isMetBy, hd, Bool.not_false, Bool.true_or, iff_true]
    exact fun hf => absurd (hd ▸ hf) hlimits

theorem isMetBy_of_within (hp : p ∈ l) (hw : ∀ q ∈ l, q.Within p) (h : fits k (unionAll l)) :
    p.isMetBy k := by
  by_cases hd : p.demands
  · obtain ⟨c, rfl, hc⟩ := fits_iff.1 h (limits_unionAll hp (by rw [hd, Bool.true_or]))
    simp [isMetBy, must_of_unionAll hp hw hd hc]
  · simp [isMetBy, hd]

end Ends

section Lengths

variable {lengths : List UInt32} {n : UInt32}

theorem lawfulOrderMax : Std.LawfulOrderMax UInt32 where
  max_eq_or a b := by
    rw [← UInt32.toNat_inj, ← UInt32.toNat_inj, UInt32.toNat_max]
    omega
  max_le_iff a b c := by
    rw [UInt32.le_iff_toNat_le, UInt32.le_iff_toNat_le, UInt32.le_iff_toNat_le, UInt32.toNat_max]
    omega

theorem le_largest (h : n ∈ lengths) : n ≤ lengths.foldl max 0 := by
  have := lawfulOrderMax
  exact (List.max?_eq_some_iff.1 List.max?_cons').2 n (List.mem_cons_of_mem 0 h)

theorem largest_reached (lengths : List UInt32) :
    lengths.foldl max 0 = 0 ∨ ∃ n ∈ lengths, n = lengths.foldl max 0 := by
  have := lawfulOrderMax
  have hmax : lengths.foldl max 0 ∈ 0 :: lengths := (List.max?_eq_some_iff.1 List.max?_cons').1
  exact (List.mem_cons.1 hmax).imp_right fun h => ⟨_, h, rfl⟩

/-- The smallest of the lengths that are set is set. -/
theorem smallestSet_le (h : n ∈ lengths) (hn : n ≠ 0) :
    smallestSet lengths ≤ n ∧ smallestSet lengths ≠ 0 := by
  have hmem : n ∈ lengths.filter fun n => n != 0 := List.mem_filter.2 ⟨h, by simpa using hn⟩
  unfold smallestSet
  rcases hf : lengths.filter fun n => n != 0 with _ | ⟨m, ms⟩
  · simp [hf] at hmem
  · have hmin : (m :: ms).min? = some (ms.foldl min m) := List.min?_cons'
    obtain ⟨hin, hle⟩ := List.min?_eq_some_iff.1 hmin
    rw [← hf] at hin hle
    exact ⟨hle n hmem, by simpa using (List.mem_filter.1 hin).2⟩

theorem smallestSet_reached (lengths : List UInt32) :
    (∃ n ∈ lengths, n ≠ 0 ∧ n = smallestSet lengths) ∨
      (∀ n ∈ lengths, n = 0) ∧ smallestSet lengths = defaultMaxLength := by
  unfold smallestSet
  rcases hf : lengths.filter fun n => n != 0 with _ | ⟨n, ns⟩
  · refine .inr ⟨fun n hn => ?_, rfl⟩
    simpa using List.filter_eq_nil_iff.1 hf n hn
  · have hmin : ns.foldl min n ∈ n :: ns := (List.min?_eq_some_iff.1 List.min?_cons').1
    rw [← hf, List.mem_filter] at hmin
    exact .inl ⟨_, hmin.1, by simpa using hmin.2, rfl⟩

theorem smallestSet_ne_zero : smallestSet lengths ≠ 0 := by
  rcases smallestSet_reached lengths with ⟨n, -, hset, he⟩ | ⟨-, he⟩
  · exact he ▸ hset
  · rw [he]
    decide

end Lengths

/-- Of the texts that come after those already seen the nonempty ones are kept. -/
theorem mem_foldl_distinct {s : String} : ∀ {texts seen : List String},
    s ∈ texts.foldl (fun seen s =>
        if s.isEmpty || seen.contains s then seen else seen ++ [s]) seen ↔
      s ∈ seen ∨ s ∈ texts ∧ s ≠ ""
  | [], seen => by simp
  | t :: texts, seen => by
    rw [List.foldl_cons, mem_foldl_distinct, List.mem_cons]
    by_cases ht : t.isEmpty || seen.contains t
    · rw [if_pos ht]
      have hst : s = t → s ≠ "" → s ∈ seen := by
        rintro rfl hs
        simpa [hs] using ht
      tauto
    · rw [if_neg ht, List.mem_append, List.mem_singleton]
      have hst : s = t → s ≠ "" := by
        rintro rfl rfl
        simp at ht
      tauto

theorem mem_distinct {s : String} {texts : List String} :
    s ∈ distinct texts ↔ s ∈ texts ∧ s ≠ "" := by
  rw [distinct, mem_foldl_distinct]
  simp

section Merge

variable {s : PasswordPolicy} {policies : List PasswordPolicy} {password : String}

theorem admitsLength_of_merge {n : UInt32} (hs : s ∈ policies)
    (h : (merge policies).admitsLength n) : s.admitsLength n := by
  rw [admitsLength, Bool.and_eq_true, decide_eq_true_eq, Bool.or_eq_true, beq_iff_eq,
    decide_eq_true_eq] at h ⊢
  refine ⟨UInt32.le_trans (le_largest (List.mem_map_of_mem hs)) h.1, ?_⟩
  by_cases hmax : s.maxLength = 0
  · exact .inl hmax
  · obtain ⟨hle, hne⟩ := smallestSet_le (List.mem_map_of_mem hs) hmax
    exact .inr (UInt32.le_trans (h.2.resolve_left hne) hle)

/-- Whether a password must have a character of a class. -/
def requires (p : PasswordPolicy) : CharacterClass → Bool
  | .digit => p.digitRequired
  | .upper => p.upperRequired
  | .lower => p.lowerRequired
  | .special => p.specialRequired

theorem mem_requiredClasses {k : CharacterClass} : k ∈ s.requiredClasses ↔ s.requires k := by
  cases k <;> simp [requiredClasses, requires]

theorem requires_merge {k : CharacterClass} :
    (merge policies).requires k = policies.any fun p => p.requires k := by
  cases k <;> rfl

theorem mem_requiredClasses_merge {k : CharacterClass} (hs : s ∈ policies)
    (h : k ∈ s.requiredClasses) : k ∈ (merge policies).requiredClasses := by
  rw [mem_requiredClasses] at h ⊢
  rw [requires_merge]
  exact List.any_eq_true.2 ⟨s, hs, h⟩

theorem startsBadly_of_merge {cs : List Char} (hs : s ∈ policies) (hne : "" ∉ s.forbiddenPrefixes)
    (h : s.startsBadly cs) : (merge policies).startsBadly cs := by
  obtain ⟨t, ht, hbad⟩ := List.any_eq_true.1 h
  refine List.any_eq_true.2 ⟨t, mem_distinct.2 ⟨List.mem_flatMap.2 ⟨s, hs, ht⟩, ?_⟩, hbad⟩
  exact ne_of_mem_of_not_mem ht hne

theorem endsBadly_of_merge {cs : List Char} (hs : s ∈ policies) (hne : "" ∉ s.forbiddenSuffixes)
    (h : s.endsBadly cs) : (merge policies).endsBadly cs := by
  obtain ⟨t, ht, hbad⟩ := List.any_eq_true.1 h
  refine List.any_eq_true.2 ⟨t, mem_distinct.2 ⟨List.mem_flatMap.2 ⟨s, hs, ht⟩, ?_⟩, hbad⟩
  exact ne_of_mem_of_not_mem ht hne

/-- The class of the first character that has one. -/
def firstClass? (password : String) : Option CharacterClass :=
  (password.toList.filterMap CharacterClass.of?).head?

/-- The class of the last character that has one. -/
def lastClass? (password : String) : Option CharacterClass :=
  (password.toList.filterMap CharacterClass.of?).getLast?

/-- What it is to comply, apart from what fits at the ends. -/
def compliesInside (p : PasswordPolicy) (password : String) : Prop :=
  p.admitsLength (.ofNat password.toList.length) ∧
    (∀ k ∈ p.requiredClasses, k ∈ password.toList.filterMap CharacterClass.of?) ∧
    p.startsBadly password.toList = false ∧ p.endsBadly password.toList = false

theorem complies_iff : s.complies password ↔ s.compliesInside password ∧
    fits (firstClass? password) s.start ∧ fits (lastClass? password) s.finish := by
  simp only [complies, compliesInside, firstClass?, lastClass?, Bool.and_eq_true, Bool.not_eq_true',
    List.all_eq_true, List.contains_iff_mem]
  tauto

theorem compliesInside_of_merge (hs : s ∈ policies) (hprefixes : "" ∉ s.forbiddenPrefixes)
    (hsuffixes : "" ∉ s.forbiddenSuffixes) (h : (merge policies).compliesInside password) :
    s.compliesInside password := by
  obtain ⟨hlength, hrequired, hstart, hend⟩ := h
  refine ⟨admitsLength_of_merge hs hlength, fun k hk => ?_, ?_, ?_⟩
  · exact hrequired k (mem_requiredClasses_merge hs hk)
  · by_contra hbad
    rw [startsBadly_of_merge hs hprefixes (Bool.not_eq_false _ ▸ hbad)] at hstart
    cases hstart
  · by_contra hbad
    rw [endsBadly_of_merge hs hsuffixes (Bool.not_eq_false _ ▸ hbad)] at hend
    cases hend

/-- A password that complies with the merged policy complies with one of the policies exactly if it
has at its ends what that one asks for there. -/
theorem complies_iff_of_merge (hs : s ∈ policies) (hprefixes : "" ∉ s.forbiddenPrefixes)
    (hsuffixes : "" ∉ s.forbiddenSuffixes) (h : (merge policies).complies password) :
    s.complies password ↔
      s.start.isMetBy (firstClass? password) ∧ s.finish.isMetBy (lastClass? password) := by
  obtain ⟨hinside, hfirst, hlast⟩ := complies_iff.1 h
  rw [complies_iff, fits_iff_of_unionAll (List.mem_map_of_mem hs) hfirst,
    fits_iff_of_unionAll (List.mem_map_of_mem hs) hlast]
  exact and_iff_right (compliesInside_of_merge hs hprefixes hsuffixes hinside)

/-- A policy for passwords of one to eight characters that start with a letter. -/
def letterFirst : PasswordPolicy :=
  { free with
    minLength := 1, maxLength := 8, start := { Placement.free with mustAlpha := true } }

/-- A policy for passwords of one to eight characters that start with a special one. -/
def specialFirst : PasswordPolicy :=
  { free with
    minLength := 1, maxLength := 8, start := { Placement.free with mustSpecial := true } }

/-- A policy for passwords that end with a digit and not with `11`. -/
def digitLast : PasswordPolicy :=
  { free with
    minLength := 2, finish := { Placement.free with mustDigit := true }
    forbiddenSuffixes := ["11"] }

theorem complies_iff_of_merge_letterFirst :
    (merge [letterFirst, digitLast]).complies "a1" ∧
      (letterFirst.complies "a1" ↔ letterFirst.start.isMetBy (firstClass? "a1") ∧
        letterFirst.finish.isMetBy (lastClass? "a1")) ∧ letterFirst.complies "a1" := by
  have h : (merge [letterFirst, digitLast]).complies "a1" := by decide
  have hiff := complies_iff_of_merge (s := letterFirst) List.mem_cons_self (by decide) (by decide) h
  exact ⟨h, hiff, hiff.2 (by decide)⟩

/-- Of two policies that ask for different first characters the merged one leaves the choice, so
that a password may comply with it and not with one of them, though neither policy forbids
anything. -/
theorem relaxed_of_merge :
    let policies := [letterFirst, specialFirst]
    (∀ p ∈ policies, "" ∉ p.forbiddenPrefixes ∧ "" ∉ p.forbiddenSuffixes) ∧
      letterFirst ∈ policies ∧ (merge policies).check = .ok () ∧
      (merge policies).complies "!" ∧ letterFirst.complies "!" = false := by
  decide

/-- Nothing gets lost of a policy when no other asks for other classes at its ends. -/
theorem complies_of_within (hs : s ∈ policies) (hprefixes : "" ∉ s.forbiddenPrefixes)
    (hsuffixes : "" ∉ s.forbiddenSuffixes) (hstart : ∀ p ∈ policies, p.start.Within s.start)
    (hfinish : ∀ p ∈ policies, p.finish.Within s.finish) (h : (merge policies).complies password) :
    s.complies password := by
  obtain ⟨hinside, hfirst, hlast⟩ := complies_iff.1 h
  rw [complies_iff, fits_iff_of_unionAll (List.mem_map_of_mem hs) hfirst,
    fits_iff_of_unionAll (List.mem_map_of_mem hs) hlast]
  refine ⟨compliesInside_of_merge hs hprefixes hsuffixes hinside, ?_, ?_⟩
  · exact isMetBy_of_within (List.mem_map_of_mem hs) (List.forall_mem_map.2 hstart) hfirst
  · exact isMetBy_of_within (List.mem_map_of_mem hs) (List.forall_mem_map.2 hfinish) hlast

end Merge

end PasswordPolicy

end Provisioning
