import Provisioning.Proofs.Satisfiability

/-!
# Policies that are refused

A policy is refused before anything is made for it when its minimal length is zero or above the
maximal one, or when two of its demands conflict (`check_eq_error`). Of the policies whose minimal
length is above the maximal one this is right: no password complies with them. Conflicting demands
rule nothing out by themselves, since what is asked for at an end is a choice when a password is
compared with the policy: some password complies as long as either end has a class left that is
asked for and not ruled out (`complies_of_refused`).
-/

namespace Provisioning

namespace PasswordPolicy

variable {p : PasswordPolicy} {policies : List PasswordPolicy} {e : PolicyError}

theorem check_eq_error (hmin : 0 < p.minLength) (h : p.check = .error e) :
    (p.maxLength < p.minLength ∧ e = .minGreaterThanMax p.minLength p.maxLength) ∨
      (p.minLength ≤ p.maxLength ∧
        ∃ first second, (true, first, second) ∈ p.conflicts ∧
          e = .conflictingFlags first second) := by
  unfold check at h
  split_ifs at h with hzero hlt
  · rw [hzero] at hmin
    exact absurd hmin (UInt32.lt_irrefl 0)
  · exact .inl ⟨hlt, (Except.error.inj h).symm⟩
  · split at h
    · rename_i conflict first second hfind
      have hmem := List.mem_of_find?_eq_some hfind
      obtain rfl : conflict = true := List.find?_some hfind
      exact .inr ⟨UInt32.not_lt.1 hlt, first, second, hmem, (Except.error.inj h).symm⟩
    · cases h

theorem not_admitsLength {n : UInt32} (hmax : p.maxLength ≠ 0) (h : p.maxLength < p.minLength) :
    p.admitsLength n = false := by
  have hor : ¬(p.minLength ≤ n ∧ n ≤ p.maxLength) := by
    rintro ⟨hleast, hmost⟩
    exact UInt32.not_lt.2 (UInt32.le_trans hleast hmost) h
  simpa [admitsLength, hmax] using hor

theorem not_complies_of_lt (hmax : p.maxLength ≠ 0) (h : p.maxLength < p.minLength)
    (password : String) : p.complies password = false := by
  rw [complies, not_admitsLength hmax h]
  rfl

/-- Nothing complies with policies that are refused for their lengths. With policies that are
refused for their demands nothing complies if no class may stand at one of the ends. If they do not
forbid ways to start or end some password complies in all other cases, and one whose length does
not wrap around exactly if there is room for all classes. -/
theorem complies_of_refused (hmin : 0 < (merge policies).minLength)
    (h : (merge policies).check = .error e) :
    (e = .minGreaterThanMax (merge policies).minLength (merge policies).maxLength ∧
      ∀ password, (merge policies).complies password = false) ∨
    (∃ first second, (true, first, second) ∈ (merge policies).conflicts ∧
        e = .conflictingFlags first second) ∧
      (¬((merge policies).start.IsOpen ∧ (merge policies).finish.IsOpen) →
        ∀ password, (merge policies).complies password = false) ∧
      ((merge policies).forbiddenPrefixes = [] → (merge policies).forbiddenSuffixes = [] →
        ((∃ password, (merge policies).complies password) ↔
          (merge policies).start.IsOpen ∧ (merge policies).finish.IsOpen) ∧
        ((∃ password : String, password.length < UInt32.size ∧ (merge policies).complies password) ↔
          (merge policies).HasRoom (merge policies).maxLength.toNat)) := by
  rcases check_eq_error hmin h with ⟨hlt, he⟩ | ⟨hle, hconflict⟩
  · exact .inl ⟨he, not_complies_of_lt smallestSet_ne_zero hlt⟩
  · refine .inr ⟨hconflict, fun hclosed password => ?_, fun hprefixes hsuffixes => ⟨?_, ?_⟩⟩
    · by_contra hcomplies
      exact hclosed (isOpen_of_complies (Bool.not_eq_false _ ▸ hcomplies))
    · exact exists_complies_iff hprefixes hsuffixes (UInt32.lt_iff_toNat_lt.1 hmin)
        (UInt32.le_iff_toNat_le.1 hle)
    · exact exists_complies_lt_iff hprefixes hsuffixes (UInt32.lt_iff_toNat_lt.1 hmin)
        (UInt32.le_iff_toNat_le.1 hle)

/-- A policy for passwords of one to eight characters that do not start with a letter. -/
def letterNotFirst : PasswordPolicy :=
  { free with
    minLength := 1, maxLength := 8, start := { Placement.free with mustntAlpha := true } }

theorem complies_of_refused_letterNotFirst :
    0 < (merge [letterFirst, letterNotFirst]).minLength ∧
      (merge [letterFirst, letterNotFirst]).check =
        .error (.conflictingFlags "must_start_with_alpha" "mustnt_start_with_alpha") ∧
      ∀ password, (merge [letterFirst, letterNotFirst]).complies password = false := by
  have hmin : 0 < (merge [letterFirst, letterNotFirst]).minLength := by decide
  have hcheck : (merge [letterFirst, letterNotFirst]).check =
      .error (.conflictingFlags "must_start_with_alpha" "mustnt_start_with_alpha") := by decide
  refine ⟨hmin, hcheck, ?_⟩
  rcases complies_of_refused hmin hcheck with ⟨-, hnone⟩ | ⟨-, hclosed, -⟩
  · exact hnone
  · refine hclosed fun hopen => ?_
    obtain ⟨k, hk⟩ := hopen.1
    revert hk
    cases k <;> decide

/-- A policy for passwords of one to eight characters that start with a digit. -/
def digitFirst : PasswordPolicy :=
  { free with
    minLength := 1, maxLength := 8, start := { Placement.free with mustDigit := true } }

/-- Two policies that ask for different first characters are refused, though a password complies
with what they are merged to. -/
theorem refused_of_complies :
    let p := merge [letterFirst, digitFirst]
    0 < p.minLength ∧
      p.check = .error (.conflictingFlags "must_start_with_alpha" "must_start_with_digit") ∧
      p.complies "a" := by
  decide

end PasswordPolicy

end Provisioning
