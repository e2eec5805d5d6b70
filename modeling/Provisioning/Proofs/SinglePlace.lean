import Provisioning.Proofs.Placing

/-!
# Passwords that are made from a single place

A policy whose minimal length is one has a single place to start with, and its class may stand at
both ends. Each required class that this place leaves waiting is put behind it (`classes_of_one`),
so that a password of more than one character ends with a class that was never compared with what
may stand last. Everything else that the policy asks for is met, and the password complies exactly
if the last class that waited, if any, may stand last (`complies_iff_of_generateFor_one`). This does
not depend on what is drawn.
-/

namespace Provisioning

namespace PasswordPolicy

open CharacterClass

section Appended

variable {maxLength : Nat} {k : CharacterClass}

theorem placeClass_of_full {slots slots' : List (Option CharacterClass)}
    (hfull : ∀ slot ∈ slots, slot ≠ none) (h : placeClass maxLength false slots k = .ok slots') :
    slots' = slots ++ [some k] := by
  rcases placeClass_cases h with ⟨i, hi, -⟩ | ⟨-, rfl⟩
  · exact absurd rfl (hfull none (List.mem_of_getElem? hi))
  · exact List.insertIdx_length_self

/-- When no place is free the classes that wait are put behind the others. -/
theorem placeAll_of_full : ∀ {required : List CharacterClass}
    {slots slots' : List (Option CharacterClass)}, (∀ slot ∈ slots, slot ≠ none) →
      required.foldlM (placeClass maxLength false) slots = .ok slots' →
      slots' = slots ++ required.map some
  | [], slots, _, _, h => by
    obtain rfl := Except.ok.inj h
    exact (List.append_nil slots).symm
  | k :: required, slots, slots', hfull, h => by
    obtain ⟨slots₁, h₁, h₂⟩ := bind_eq_ok.1 (List.foldlM_cons.symm.trans h)
    obtain rfl := placeClass_of_full hfull h₁
    have hfull₁ : ∀ slot ∈ slots ++ [some k], slot ≠ none := by
      intro slot hs
      rcases List.mem_append.1 hs with hs | hs
      · exact hfull slot hs
      · rw [List.mem_singleton.1 hs]
        exact Option.some_ne_none k
    rw [placeAll_of_full hfull₁ h₂, List.append_assoc]
    rfl

end Appended

variable {p : PasswordPolicy} {draws : Draws} {retries : UInt32} {password : String}

/-- The required classes that a single place leaves waiting. -/
def trailing (p : PasswordPolicy) : List CharacterClass :=
  waiting true p.allowsBoth p.requiredClasses

theorem slots_of_one (hmin : p.minLength.toNat = 1) (hlimited : p.isLimited)
    {slots : List (Option CharacterClass)} (h : p.slots draws = .ok slots) :
    ∃ k, p.allowsBoth k ∧ slots = (k :: p.trailing).map some := by
  have hends : p.ends p.minLength.toNat = (listed true p.allowsBoth, none) := by
    rw [ends_of_one hmin, hlimited]
  have hopen : ∃ k, p.allowsBoth k := by
    rw [slots_of_ends hends] at h
    obtain ⟨plan, hplan, -⟩ := bind_eq_ok.1 h
    exact open_of_fixEnd (absurd rfl) hplan
  obtain ⟨k, hk, hplan⟩ := fixEnd_of_open hopen
  rw [slots_of_plans hends hplan rfl] at h
  have hplace : p.blank.slots.set 0 (some k) = [some k] := by
    rw [blank, hmin]
    rfl
  refine ⟨k, hk, ?_⟩
  rw [placeAll_of_full ?_ h, hplace]
  · rfl
  · simp [hplace]

theorem fill_map_some {classes : List CharacterClass} :
    fill draws (classes.map some) = classes := by
  rw [fill, List.mapIdx_eq_iff]
  intro i
  rw [List.getElem?_map, Option.map_map]
  rcases classes[i]? with _ | k <;> rfl

theorem filterMap_of_map_of? {cs : List Char} {classes : List CharacterClass}
    (h : cs.map of? = classes.map some) : cs.filterMap of? = classes := by
  have hid : cs.filterMap of? = (cs.map of?).filterMap id := by
    rw [List.filterMap_map]
    rfl
  rw [hid, h, List.filterMap_map, Function.id_comp, List.filterMap_some]

/-- The classes of a password that was made from a single place with limits. -/
theorem classes_of_one (hmin : p.minLength.toNat = 1) (hlimited : p.isLimited)
    (h : p.generate retries draws = .ok password) :
    ∃ k, p.allowsBoth k ∧ password.toList.filterMap of? = k :: p.trailing := by
  obtain ⟨slots, hslots, -, hof, -⟩ := generate_classes h
  obtain ⟨k, hk, rfl⟩ := slots_of_one hmin hlimited hslots
  rw [fill_map_some] at hof
  exact ⟨k, hk, filterMap_of_map_of? hof⟩

/-- Whatever its length, a password that was made has the length, the classes and the ways to start
and end that the policy asks for. -/
theorem compliesInside_of_generate (h : p.generate retries draws = .ok password) :
    p.compliesInside password := by
  obtain ⟨slots, -, hsuits, hof, hlength, hstart, hend⟩ := generate_classes h
  obtain ⟨hcheck, -⟩ := generate_cases h
  obtain ⟨hpos, hle⟩ := check_eq_ok hcheck
  have hmost : slots.length ≤ p.maxLength.toNat := hsuits.most
  have hlt : slots.length < UInt32.size := Nat.lt_of_le_of_lt hmost p.maxLength.toNat_lt
  refine ⟨?_, fun k hk => ?_, hstart, hend⟩
  · rw [hlength, admitsLength_ofNat_iff hlt (by omega)]
    exact ⟨hsuits.least, hmost⟩
  · rw [filterMap_of_map_of? hof]
    exact mem_fill ((hsuits.required k hk).resolve_left List.not_mem_nil)

theorem fits_of_not_isLimited {pl : Placement} (h : ¬pl.isLimited) (k : Option CharacterClass) :
    fits k pl :=
  fits_iff.2 fun hl => absurd hl h

/-- What may stand last is all that a password made from a single place can lack. -/
theorem complies_iff_trailing (hmin : p.minLength.toNat = 1)
    (h : p.generate retries draws = .ok password) :
    fits (firstClass? password) p.start ∧
      (p.complies password ↔ ∀ k, p.trailing.getLast? = some k → p.finish.allows k) := by
  rw [complies_iff, and_iff_right (compliesInside_of_generate h)]
  by_cases hlimited : p.isLimited
  · obtain ⟨k, hk, hclasses⟩ := classes_of_one hmin hlimited h
    rw [allowsBoth, Bool.and_eq_true] at hk
    have hfirst : fits (firstClass? password) p.start := by
      rw [firstClass?, hclasses]
      exact fits_some.2 hk.1
    refine ⟨hfirst, ?_⟩
    rw [and_iff_right hfirst, lastClass?, hclasses]
    rcases p.trailing.eq_nil_or_concat' with htrailing | ⟨rest, last, htrailing⟩ <;> rw [htrailing]
    · exact iff_of_true (fits_some.2 hk.2) (by simp)
    · rw [← List.cons_append, List.getLast?_concat, List.getLast?_concat, fits_some]
      simp
  · rw [isLimited, Bool.or_eq_true, not_or] at hlimited
    have hfirst := fits_of_not_isLimited hlimited.1 (firstClass? password)
    have hlast := fits_of_not_isLimited hlimited.2 (lastClass? password)
    exact ⟨hfirst, iff_of_true ⟨hfirst, hlast⟩ fun k _ =>
      Placement.allows_of_not_isLimited hlimited.2 k⟩

variable {policies : List PasswordPolicy}

/-- A password that is made for policies with a minimal length of one is as they ask, but for its
last character. It complies exactly if the last of the classes that come behind the single place may
stand last, or there is none. -/
theorem complies_iff_of_generateFor_one (hmin : (merge policies).minLength = 1)
    (h : generateFor policies retries draws = .ok password) :
    (merge policies).compliesInside password ∧
      fits (firstClass? password) (merge policies).start ∧
      ((merge policies).complies password ↔
        ∀ k, (merge policies).trailing.getLast? = some k → (merge policies).finish.allows k) := by
  have hone : (merge policies).minLength.toNat = 1 := by
    rw [hmin]
    rfl
  exact ⟨compliesInside_of_generate h, complies_iff_trailing hone h⟩

/-- A policy for passwords with an upper-case letter that end with a letter. -/
def letterLast : PasswordPolicy :=
  { free with
    minLength := 1, maxLength := 8, upperRequired := true
    finish := { Placement.free with mustAlpha := true } }

/-- A policy for passwords with a lower-case letter. -/
def lowerCase : PasswordPolicy :=
  { free with minLength := 1, lowerRequired := true }

/-- The class that waits is a letter, too. -/
theorem complies_iff_of_generateFor_one_letters :
    let draws : Draws := ⟨0, 0, fun _ => true, fun _ => 0, fun _ => 1, fun _ => 1⟩
    (merge [letterLast, lowerCase]).minLength = 1 ∧
      generateFor [letterLast, lowerCase] 64 draws = .ok "Aa" ∧
      (merge [letterLast, lowerCase]).trailing = [.lower] ∧
      (merge [letterLast, lowerCase]).complies "Aa" := by
  intro draws
  have hmin : (merge [letterLast, lowerCase]).minLength = 1 := by decide
  have hmade : generateFor [letterLast, lowerCase] 64 draws = .ok "Aa" := by rfl
  refine ⟨hmin, hmade, by decide, (complies_iff_of_generateFor_one hmin hmade).2.2.2 ?_⟩
  decide

/-- A policy for passwords with an upper-case letter that end with a digit. -/
def upperThenDigit : PasswordPolicy :=
  { free with
    minLength := 1, maxLength := 8, upperRequired := true
    finish := { Placement.free with mustDigit := true } }

/-- The single place gets the digit, and the letter comes behind it. -/
theorem not_complies_of_generateFor :
    let draws : Draws := ⟨0, 0, fun _ => true, fun _ => 0, fun _ => 1, fun _ => 1⟩
    (merge [upperThenDigit]).minLength = 1 ∧ generateFor [upperThenDigit] 64 draws = .ok "0A" ∧
      (merge [upperThenDigit]).complies "0A" = false ∧
      (merge [upperThenDigit]).complies "A0" := by
  intro draws
  exact ⟨by decide, by rfl, by decide, by decide⟩

end PasswordPolicy

end Provisioning
