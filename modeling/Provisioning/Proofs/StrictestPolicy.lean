import Mathlib.Data.List.Nodup
import Mathlib.Data.Set.Image
import Provisioning.Proofs.Positions

/-!
# The strictest policy

The strictest policy for a set of policies has the largest minimal length and the smallest maximal
length that is set, and it requires, asks for, rules out and forbids whatever one of them does. This
settles the policy but for the order of what it forbids (`IsStrictest.reordered`), and the order has
no effect on what is refused or complies. Merging a list of policies gives the strictest policy for
its members (`isStrictest_merge`), so that it does not matter in which order they come
(`merge_strictest`).

Nor does merging ask for more than the policies do: what complies with each of them complies with
the strictest one, unless it is longer than a password may be when no policy sets a maximum
(`IsStrictest.complies_iff_of_forall`).
-/

namespace Provisioning

namespace Placement

variable {p u v : Placement} {s : Set Placement} {k : CharacterClass}

/-- Asks for a class, or rules one out, exactly if some placement of a set does. -/
structure IsUnion (u : Placement) (s : Set Placement) : Prop where
  must : ∀ k, u.must k ↔ ∃ p ∈ s, p.must k
  mustnt : ∀ k, u.mustnt k ↔ ∃ p ∈ s, p.mustnt k

theorem demands_iff : p.demands ↔ ∃ k, p.must k := by
  simp only [demands, Bool.or_eq_true]
  constructor
  · rintro ((h | h) | h)
    · exact ⟨.upper, h⟩
    · exact ⟨.digit, h⟩
    · exact ⟨.special, h⟩
  · rintro ⟨k, hk⟩
    cases k <;> simp_all [must]

theorem forbids_iff : p.forbids ↔ ∃ k, p.mustnt k := by
  simp only [forbids, Bool.or_eq_true]
  constructor
  · rintro ((h | h) | h)
    · exact ⟨.upper, h⟩
    · exact ⟨.digit, h⟩
    · exact ⟨.special, h⟩
  · rintro ⟨k, hk⟩
    cases k <;> simp_all [mustnt]

theorem allows_iff : p.allows k ↔ (p.demands → p.must k) ∧ ¬p.mustnt k := by
  rw [allows, Bool.and_eq_true, Bool.or_eq_true, Bool.not_eq_true', Bool.not_eq_true',
    ← Bool.not_eq_true, ← Bool.not_eq_true, imp_iff_not_or]

theorem isUnion_unionAll (l : List Placement) : (unionAll l).IsUnion {p | p ∈ l} where
  must k := by rw [must_unionAll, List.any_eq_true]; rfl
  mustnt k := by rw [mustnt_unionAll, List.any_eq_true]; rfl

theorem isUnion_singleton (p : Placement) : p.IsUnion {p} := by
  constructor <;> simp

namespace IsUnion

/-- There is only one union. -/
theorem unique (hu : u.IsUnion s) (hv : v.IsUnion s) : u = v := by
  have hmust k : u.must k = v.must k := Bool.eq_iff_iff.2 ((hu.must k).trans (hv.must k).symm)
  have hmustnt k : u.mustnt k = v.mustnt k :=
    Bool.eq_iff_iff.2 ((hu.mustnt k).trans (hv.mustnt k).symm)
  have hall := And.intro (hmust .upper) (And.intro (hmust .digit) (hmust .special))
  have hall' := And.intro (hmustnt .upper) (And.intro (hmustnt .digit) (hmustnt .special))
  cases u
  cases v
  simp only [Placement.must, Placement.mustnt] at hall hall'
  simp [hall, hall']

/-- What all placements limit or allow the union limits or allows. -/
theorem allows (hu : u.IsUnion s) (h : ∀ p ∈ s, p.allows k) : u.allows k := by
  refine allows_iff.2 ⟨fun hd => ?_, fun hk => ?_⟩
  · obtain ⟨c, hc⟩ := demands_iff.1 hd
    obtain ⟨p, hp, hpc⟩ := (hu.must c).1 hc
    exact (hu.must k).2 ⟨p, hp, (allows_iff.1 (h p hp)).1 (demands_iff.2 ⟨c, hpc⟩)⟩
  · obtain ⟨p, hp, hpk⟩ := (hu.mustnt k).1 hk
    exact (allows_iff.1 (h p hp)).2 hpk

theorem exists_isLimited (hu : u.IsUnion s) (h : u.isLimited) : ∃ p ∈ s, p.isLimited := by
  rw [isLimited, Bool.or_eq_true, demands_iff, forbids_iff] at h
  rcases h with ⟨k, hk⟩ | ⟨k, hk⟩
  · obtain ⟨p, hp, hpk⟩ := (hu.must k).1 hk
    exact ⟨p, hp, by rw [isLimited, demands_iff.2 ⟨k, hpk⟩, Bool.true_or]⟩
  · obtain ⟨p, hp, hpk⟩ := (hu.mustnt k).1 hk
    exact ⟨p, hp, by rw [isLimited, forbids_iff.2 ⟨k, hpk⟩, Bool.or_true]⟩

/-- What fits every placement fits their union. -/
theorem fits {k : Option CharacterClass} (hu : u.IsUnion s)
    (h : ∀ p ∈ s, PasswordPolicy.fits k p) : PasswordPolicy.fits k u := by
  rcases k with _ | k
  · refine PasswordPolicy.fits_none.2 fun hl => ?_
    obtain ⟨p, hp, hpl⟩ := hu.exists_isLimited hl
    exact PasswordPolicy.fits_none.1 (h p hp) hpl
  · exact PasswordPolicy.fits_some.2 (hu.allows fun p hp => PasswordPolicy.fits_some.1 (h p hp))

end IsUnion

end Placement

namespace PasswordPolicy

/-- The strictest policy for a set of policies. -/
structure IsStrictest (m : PasswordPolicy) (s : Set PasswordPolicy) : Prop where
  minLength_le : ∀ p ∈ s, p.minLength ≤ m.minLength
  minLength_reached : m.minLength = 0 ∨ ∃ p ∈ s, p.minLength = m.minLength
  le_maxLength : ∀ p ∈ s, p.maxLength ≠ 0 → m.maxLength ≤ p.maxLength
  maxLength_reached : (∃ p ∈ s, p.maxLength ≠ 0 ∧ p.maxLength = m.maxLength) ∨
    (∀ p ∈ s, p.maxLength = 0) ∧ m.maxLength = defaultMaxLength
  requires : ∀ k, m.requires k ↔ ∃ p ∈ s, p.requires k
  start : m.start.IsUnion (start '' s)
  finish : m.finish.IsUnion (finish '' s)
  nodup_prefixes : m.forbiddenPrefixes.Nodup
  mem_prefixes : ∀ t, t ∈ m.forbiddenPrefixes ↔ t ≠ "" ∧ ∃ p ∈ s, t ∈ p.forbiddenPrefixes
  nodup_suffixes : m.forbiddenSuffixes.Nodup
  mem_suffixes : ∀ t, t ∈ m.forbiddenSuffixes ↔ t ≠ "" ∧ ∃ p ∈ s, t ∈ p.forbiddenSuffixes

/-- Policies that differ at most in the order of the ways to start and end that they forbid. -/
def Reordered (p q : PasswordPolicy) : Prop :=
  ∃ prefixes suffixes, p.forbiddenPrefixes.Perm prefixes ∧ p.forbiddenSuffixes.Perm suffixes ∧
    q = { p with forbiddenPrefixes := prefixes, forbiddenSuffixes := suffixes }

namespace Reordered

variable {p q : PasswordPolicy}

theorem check (h : p.Reordered q) : p.check = q.check := by
  obtain ⟨prefixes, suffixes, -, -, rfl⟩ := h
  rfl

theorem complies (h : p.Reordered q) (password : String) :
    p.complies password = q.complies password := by
  obtain ⟨prefixes, suffixes, hprefixes, hsuffixes, rfl⟩ := h
  simp only [PasswordPolicy.complies, startsBadly, endsBadly, hprefixes.any_eq, hsuffixes.any_eq]
  rfl

theorem eq (h : p.Reordered q) (hprefixes : p.forbiddenPrefixes = q.forbiddenPrefixes)
    (hsuffixes : p.forbiddenSuffixes = q.forbiddenSuffixes) : p = q := by
  obtain ⟨prefixes, suffixes, -, -, rfl⟩ := h
  cases p
  simp_all

end Reordered

section Distinct

variable {texts seen : List String}

theorem nodup_foldl_distinct : ∀ {texts seen : List String}, seen.Nodup →
    (texts.foldl (fun seen s =>
      if s.isEmpty || seen.contains s then seen else seen ++ [s]) seen).Nodup
  | [], _, h => h
  | t :: texts, seen, h => by
    rw [List.foldl_cons]
    refine nodup_foldl_distinct ?_
    split_ifs with ht
    · exact h
    · have hnew : t ∉ seen := fun hmem => ht (by simp [hmem])
      exact List.nodup_append.2 ⟨h, List.nodup_singleton t, by grind⟩

theorem nodup_distinct : (distinct texts).Nodup :=
  nodup_foldl_distinct List.nodup_nil

/-- Distinct nonempty texts stay as they are. -/
theorem foldl_distinct_of_nodup : ∀ {texts seen : List String}, (seen ++ texts).Nodup →
    "" ∉ texts → texts.foldl (fun seen s =>
      if s.isEmpty || seen.contains s then seen else seen ++ [s]) seen = seen ++ texts
  | [], seen, _, _ => (List.append_nil seen).symm
  | t :: texts, seen, h, hne => by
    obtain ⟨ht, hne⟩ := not_or.1 (mt List.mem_cons.2 hne)
    have hnew : t ∉ seen := fun hmem => (List.nodup_append.1 h).2.2 t hmem t List.mem_cons_self rfl
    rw [List.append_cons] at h
    rw [List.foldl_cons, if_neg (by simp [hnew, Ne.symm ht]), foldl_distinct_of_nodup h hne,
      ← List.append_cons]

theorem distinct_distinct : distinct (distinct texts) = distinct texts :=
  foldl_distinct_of_nodup nodup_distinct fun h => (mem_distinct.1 h).2 rfl

end Distinct

section Strictest

variable {m m' p : PasswordPolicy} {s : Set PasswordPolicy} {policies others : List PasswordPolicy}
  {password : String}

theorem isStrictest_merge (policies : List PasswordPolicy) :
    (merge policies).IsStrictest {p | p ∈ policies} where
  minLength_le p hp := le_largest (List.mem_map_of_mem hp)
  minLength_reached := by
    refine (largest_reached (policies.map minLength)).imp_right ?_
    rintro ⟨n, hn, he⟩
    obtain ⟨p, hp, rfl⟩ := List.mem_map.1 hn
    exact ⟨p, hp, he⟩
  le_maxLength p hp hset := (smallestSet_le (List.mem_map_of_mem hp) hset).1
  maxLength_reached := by
    refine (smallestSet_reached (policies.map maxLength)).imp ?_ ?_
    · rintro ⟨n, hn, hset, he⟩
      obtain ⟨p, hp, rfl⟩ := List.mem_map.1 hn
      exact ⟨p, hp, hset, he⟩
    · exact And.imp_left fun h p hp => h _ (List.mem_map_of_mem hp)
  requires k := by
    rw [requires_merge, List.any_eq_true]
    rfl
  start := by
    have h := Placement.isUnion_unionAll (policies.map start)
    simp only [List.mem_map] at h
    exact h
  finish := by
    have h := Placement.isUnion_unionAll (policies.map finish)
    simp only [List.mem_map] at h
    exact h
  nodup_prefixes := nodup_distinct
  mem_prefixes t := mem_distinct.trans (by rw [List.mem_flatMap, and_comm]; rfl)
  nodup_suffixes := nodup_distinct
  mem_suffixes t := mem_distinct.trans (by rw [List.mem_flatMap, and_comm]; rfl)

namespace IsStrictest

theorem minLength_le_of_strictest (h : m.IsStrictest s) (h' : m'.IsStrictest s) :
    m.minLength ≤ m'.minLength := by
  rcases h.minLength_reached with h0 | ⟨p, hp, he⟩
  · rw [h0]
    exact UInt32.zero_le
  · exact he ▸ h'.minLength_le p hp

theorem maxLength_le_of_strictest (h : m.IsStrictest s) (h' : m'.IsStrictest s) :
    m.maxLength ≤ m'.maxLength := by
  rcases h'.maxLength_reached with ⟨p, hp, hset, he⟩ | ⟨hnone, he'⟩
  · exact he ▸ h.le_maxLength p hp hset
  · rcases h.maxLength_reached with ⟨p, hp, hset, -⟩ | ⟨-, he⟩
    · exact absurd (hnone p hp) hset
    · rw [he, he']
      exact UInt32.le_refl _

theorem requires_eq (h : m.IsStrictest s) (h' : m'.IsStrictest s) (k : CharacterClass) :
    m.requires k = m'.requires k :=
  Bool.eq_iff_iff.2 ((h.requires k).trans (h'.requires k).symm)

/-- There is only one strictest policy, but for the order of what it forbids. -/
theorem reordered (h : m.IsStrictest s) (h' : m'.IsStrictest s) : m.Reordered m' := by
  refine ⟨m'.forbiddenPrefixes, m'.forbiddenSuffixes, ?_, ?_, ?_⟩
  · exact (List.perm_ext_iff_of_nodup h.nodup_prefixes h'.nodup_prefixes).2 fun t =>
      (h.mem_prefixes t).trans (h'.mem_prefixes t).symm
  · exact (List.perm_ext_iff_of_nodup h.nodup_suffixes h'.nodup_suffixes).2 fun t =>
      (h.mem_suffixes t).trans (h'.mem_suffixes t).symm
  · have hmin := UInt32.le_antisymm (h'.minLength_le_of_strictest h) (h.minLength_le_of_strictest h')
    have hmax := UInt32.le_antisymm (h'.maxLength_le_of_strictest h) (h.maxLength_le_of_strictest h')
    have hdigit : m'.digitRequired = m.digitRequired := h'.requires_eq h .digit
    have hupper : m'.upperRequired = m.upperRequired := h'.requires_eq h .upper
    have hlower : m'.lowerRequired = m.lowerRequired := h'.requires_eq h .lower
    have hspecial : m'.specialRequired = m.specialRequired := h'.requires_eq h .special
    have hstart := h'.start.unique h.start
    have hfinish := h'.finish.unique h.finish
    cases m'
    simp_all

theorem maxLength_ne_zero (h : m.IsStrictest s) : m.maxLength ≠ 0 := by
  rcases h.maxLength_reached with ⟨p, -, hset, he⟩ | ⟨-, he⟩
  · exact he ▸ hset
  · rw [he]
    decide

/-- The strictest policy is so for itself alone. -/
theorem singleton (h : m.IsStrictest s) : m.IsStrictest {m} where
  minLength_le p hp := by
    rw [Set.mem_singleton_iff.1 hp]
    exact UInt32.le_refl _
  minLength_reached := .inr ⟨m, rfl, rfl⟩
  le_maxLength p hp _ := by
    rw [Set.mem_singleton_iff.1 hp]
    exact UInt32.le_refl _
  maxLength_reached := .inl ⟨m, rfl, h.maxLength_ne_zero, rfl⟩
  requires k := by simp
  start := by
    rw [Set.image_singleton]
    exact Placement.isUnion_singleton _
  finish := by
    rw [Set.image_singleton]
    exact Placement.isUnion_singleton _
  nodup_prefixes := h.nodup_prefixes
  mem_prefixes t := by
    have hne : t ∈ m.forbiddenPrefixes → t ≠ "" := fun ht => ((h.mem_prefixes t).1 ht).1
    simpa using hne
  nodup_suffixes := h.nodup_suffixes
  mem_suffixes t := by
    have hne : t ∈ m.forbiddenSuffixes → t ≠ "" := fun ht => ((h.mem_suffixes t).1 ht).1
    simpa using hne

theorem admitsLength_iff_of_forall {n : UInt32} (h : m.IsStrictest s)
    (hall : ∀ p ∈ s, p.admitsLength n) :
    m.admitsLength n ↔ (∃ p ∈ s, p.maxLength ≠ 0) ∨ n ≤ defaultMaxLength := by
  have hiff {p : PasswordPolicy} :
      p.admitsLength n ↔ p.minLength ≤ n ∧ (p.maxLength = 0 ∨ n ≤ p.maxLength) := by
    simp [admitsLength]
  have hmin : m.minLength ≤ n := by
    rcases h.minLength_reached with h0 | ⟨p, hp, he⟩
    · rw [h0]
      exact UInt32.zero_le
    · exact he ▸ (hiff.1 (hall p hp)).1
  rw [hiff, and_iff_right hmin, or_iff_right h.maxLength_ne_zero]
  rcases h.maxLength_reached with ⟨p, hp, hset, he⟩ | ⟨hnone, he⟩
  · exact iff_of_true (he ▸ (hiff.1 (hall p hp)).2.resolve_left hset) (.inl ⟨p, hp, hset⟩)
  · rw [he, or_iff_right]
    rintro ⟨p, hp, hset⟩
    exact hset (hnone p hp)

theorem startsBadly_eq_false {cs : List Char} (h : m.IsStrictest s)
    (hall : ∀ p ∈ s, p.startsBadly cs = false) : m.startsBadly cs = false := by
  refine List.any_eq_false.2 fun t ht hbad => ?_
  obtain ⟨-, p, hp, htp⟩ := (h.mem_prefixes t).1 ht
  exact List.any_eq_false.1 (hall p hp) t htp hbad

theorem endsBadly_eq_false {cs : List Char} (h : m.IsStrictest s)
    (hall : ∀ p ∈ s, p.endsBadly cs = false) : m.endsBadly cs = false := by
  refine List.any_eq_false.2 fun t ht hbad => ?_
  obtain ⟨-, p, hp, htp⟩ := (h.mem_suffixes t).1 ht
  exact List.any_eq_false.1 (hall p hp) t htp hbad

/-- What complies with every policy of a set complies with the strictest one for them, unless it is
longer than a password may be when no policy sets a maximum. -/
theorem complies_iff_of_forall (h : m.IsStrictest s) (hall : ∀ p ∈ s, p.complies password) :
    m.complies password ↔ (∃ p ∈ s, p.maxLength ≠ 0) ∨
      UInt32.ofNat password.toList.length ≤ defaultMaxLength := by
  have hall' p (hp : p ∈ s) := complies_iff.1 (hall p hp)
  rw [← h.admitsLength_iff_of_forall fun p hp => (hall' p hp).1.1, complies_iff]
  refine ⟨fun hm => hm.1.1, fun hlength => ⟨⟨hlength, fun k hk => ?_, ?_, ?_⟩, ?_, ?_⟩⟩
  · obtain ⟨p, hp, hpk⟩ := (h.requires k).1 (mem_requiredClasses.1 hk)
    exact (hall' p hp).1.2.1 k (mem_requiredClasses.2 hpk)
  · exact h.startsBadly_eq_false fun p hp => (hall' p hp).1.2.2.1
  · exact h.endsBadly_eq_false fun p hp => (hall' p hp).1.2.2.2
  · exact h.start.fits (Set.forall_mem_image.2 fun p hp => (hall' p hp).2.1)
  · exact h.finish.fits (Set.forall_mem_image.2 fun p hp => (hall' p hp).2.2)

end IsStrictest

/-- A password of at most a thousand characters that complies with all policies complies with the
one that they are merged to. -/
theorem complies_merge_of_forall (hlength : password.length ≤ 1000)
    (hall : ∀ p ∈ policies, p.complies password) : (merge policies).complies password := by
  refine ((isStrictest_merge policies).complies_iff_of_forall hall).2 (.inr ?_)
  rw [UInt32.le_iff_toNat_le, UInt32.toNat_ofNat', String.length_toList]
  exact Nat.le_trans (Nat.mod_le _ _) hlength

/-- A policy for passwords with an upper-case letter that start with no digit and not with `root`. -/
def rootless : PasswordPolicy :=
  { free with
    minLength := 3, maxLength := 4000, upperRequired := true
    start := { Placement.free with mustntDigit := true }
    forbiddenPrefixes := ["root"], forbiddenSuffixes := ["22", "11"] }

theorem complies_merge_of_forall_threePolicies :
    let policies := [rootless, letterFirst, digitLast]
    ("aB1".length ≤ 1000 ∧ ∀ p ∈ policies, p.complies "aB1") ∧ (merge policies).complies "aB1" := by
  have hall : ∀ p ∈ [rootless, letterFirst, digitLast], p.complies "aB1" := by decide
  exact ⟨⟨by decide, hall⟩, complies_merge_of_forall (by decide) hall⟩

theorem merge_merge (policies : List PasswordPolicy) :
    merge [merge policies] = merge policies := by
  have hmem : {p | p ∈ [merge policies]} = {merge policies} := Set.ext fun p => List.mem_singleton
  have hs := (isStrictest_merge policies).singleton
  have hr := (isStrictest_merge [merge policies]).reordered (hmem ▸ hs)
  refine hr.eq ?_ ?_
  · exact (congrArg distinct (List.append_nil _)).trans distinct_distinct
  · exact (congrArg distinct (List.append_nil _)).trans distinct_distinct

/-- Policies are merged to their strictest one. Their order makes a difference only to the order of
what it forbids, and so none to what is refused or complies. Merging the result changes nothing. -/
theorem merge_strictest (h : policies.Perm others) :
    (merge policies).IsStrictest {p | p ∈ policies} ∧
      (merge policies).Reordered (merge others) ∧
      (merge policies).check = (merge others).check ∧
      (∀ password, (merge policies).complies password = (merge others).complies password) ∧
      merge [merge policies] = merge policies := by
  have hmem : {p | p ∈ policies} = {p | p ∈ others} := Set.ext fun p => h.mem_iff
  have hs := isStrictest_merge policies
  have hr := hs.reordered (hmem ▸ isStrictest_merge others)
  exact ⟨hs, hr, hr.check, hr.complies, merge_merge policies⟩

theorem merge_strictest_swapped :
    let policies := [rootless, digitLast]
    policies.Perm [digitLast, rootless] ∧
      (merge policies).forbiddenSuffixes = ["22", "11"] ∧
      (merge [digitLast, rootless]).forbiddenSuffixes = ["11", "22"] ∧
      (merge policies).IsStrictest {p | p ∈ policies} ∧
      (merge policies).Reordered (merge [digitLast, rootless]) ∧
      ∀ password,
        (merge policies).complies password = (merge [digitLast, rootless]).complies password := by
  have h : [rootless, digitLast].Perm [digitLast, rootless] := List.Perm.swap _ _ _
  obtain ⟨hs, hr, -, hcomplies, -⟩ := merge_strictest h
  exact ⟨h, by decide, by decide, hs, hr, hcomplies⟩

end Strictest

end PasswordPolicy

end Provisioning
