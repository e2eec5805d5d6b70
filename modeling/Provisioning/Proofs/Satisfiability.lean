import Mathlib.Data.List.Nodup
import Mathlib.Data.List.Perm.Subperm
import Provisioning.Proofs.Generation
import Provisioning.Proofs.Positions

/-!
# Policies that can be satisfied

Whether any password complies with a policy that forbids no ways to start or end is settled by the
classes that are allowed at the two ends and those that are required. A number of characters has
room for them (`HasRoom`) when the required classes that do not stand at an end fit between the
ends, and then there are passwords of this length (`exists_arranged_iff`).

Lengths are counted with thirty-two bits. Of the passwords whose length does not wrap around one
complies exactly if the maximal length has room (`exists_complies_lt_iff`). Of all passwords one
does as soon as there is a class for either end (`exists_complies_iff`), since a length that has
wrapped around has room for everything.
-/

namespace Provisioning

/-- Some class may stand here. -/
def Placement.IsOpen (p : Placement) : Prop :=
  ∃ k, p.allows k

namespace PasswordPolicy

open CharacterClass

variable {p : PasswordPolicy} {classes : List CharacterClass} {n : Nat}

theorem requiredClasses_eq :
    p.requiredClasses = [CharacterClass.digit, .upper, .lower, .special].filter p.requires := by
  obtain ⟨-, -, digit, upper, lower, special, -, -, -, -⟩ := p
  cases digit <;> cases upper <;> cases lower <;> cases special <;> rfl

theorem nodup_requiredClasses : p.requiredClasses.Nodup := by
  rw [requiredClasses_eq]
  exact List.Nodup.filter _ (by decide)

theorem length_requiredClasses_le : p.requiredClasses.length ≤ 4 := by
  rw [requiredClasses_eq]
  exact List.length_filter_le _ _

/-- The required classes that must stand between the two ends. -/
def between (p : PasswordPolicy) (first last : CharacterClass) : List CharacterClass :=
  p.requiredClasses.filter fun k => k != first && k != last

/-- Whether so many characters, one at least, can have all the classes that are required and classes
that may stand at the ends. A single character stands at both. -/
def HasRoom (p : PasswordPolicy) (n : Nat) : Prop :=
  (∃ k, p.start.allows k ∧ p.finish.allows k ∧ ∀ r ∈ p.requiredClasses, r = k) ∨
    ∃ first last, p.start.allows first ∧ p.finish.allows last ∧
      (p.between first last).length + 2 ≤ n

theorem HasRoom.mono {m : Nat} (h : p.HasRoom n) (hnm : n ≤ m) : p.HasRoom m :=
  h.imp_right fun ⟨first, last, hfirst, hlast, hn⟩ =>
    ⟨first, last, hfirst, hlast, Nat.le_trans hn hnm⟩

theorem HasRoom.isOpen (h : p.HasRoom n) : p.start.IsOpen ∧ p.finish.IsOpen := by
  rcases h with ⟨k, hstart, hfinish, -⟩ | ⟨first, last, hstart, hfinish, -⟩
  · exact ⟨⟨k, hstart⟩, k, hfinish⟩
  · exact ⟨⟨first, hstart⟩, last, hfinish⟩

/-- Six characters have room for the four classes and the two ends. -/
theorem hasRoom_of_isOpen (h : p.start.IsOpen ∧ p.finish.IsOpen) (hn : 6 ≤ n) : p.HasRoom n := by
  obtain ⟨⟨first, hfirst⟩, last, hlast⟩ := h
  have hbetween : (p.between first last).length ≤ 4 :=
    Nat.le_trans (List.length_filter_le _ _) length_requiredClasses_le
  exact .inr ⟨first, last, hfirst, hlast, by omega⟩

theorem Arranged.hasRoom (h : p.Arranged classes) : p.HasRoom classes.length := by
  obtain ⟨hrequired, hfirst, hlast⟩ := h
  rcases classes with _ | ⟨first, rest⟩
  · refine .inl ⟨.upper, ?_, ?_, fun r hr => absurd (hrequired r hr) List.not_mem_nil⟩
    · exact Placement.allows_of_not_isLimited (fits_none.1 hfirst) _
    · exact Placement.allows_of_not_isLimited (fits_none.1 hlast) _
  · rw [List.head?_cons, fits_some] at hfirst
    rcases rest.eq_nil_or_concat' with rfl | ⟨middle, last, rfl⟩
    · rw [List.getLast?_singleton, fits_some] at hlast
      exact .inl ⟨first, hfirst, hlast, fun r hr => List.mem_singleton.1 (hrequired r hr)⟩
    · rw [← List.cons_append, List.getLast?_concat, fits_some] at hlast
      refine .inr ⟨first, last, hfirst, hlast, ?_⟩
      -- No class is required twice, so that each takes a character of its own between the ends.
      have hsub : p.between first last ⊆ middle := by
        intro k hk
        obtain ⟨hk, hne⟩ := List.mem_filter.1 hk
        have hmem := hrequired k hk
        simp only [Bool.and_eq_true, bne_iff_ne, ne_eq] at hne
        simpa [hne.1, hne.2] using hmem
      have hnodup : (p.between first last).Nodup := nodup_requiredClasses.filter _
      have hlength := (hnodup.subperm hsub).length_le
      simp only [List.length_cons, List.length_append, List.length_nil]
      omega

theorem exists_arranged (hn : 0 < n) (h : p.HasRoom n) :
    ∃ classes, classes.length = n ∧ p.Arranged classes := by
  rcases h with ⟨k, hstart, hfinish, hrequired⟩ | ⟨first, last, hstart, hfinish, hle⟩
  · refine ⟨List.replicate n k, List.length_replicate, fun r hr => ?_, ?_, ?_⟩
    · exact List.mem_replicate.2 ⟨by omega, hrequired r hr⟩
    · rw [List.head?_replicate, if_neg (by omega), fits_some]
      exact hstart
    · rw [List.getLast?_replicate, if_neg (by omega), fits_some]
      exact hfinish
  · let spare := n - 2 - (p.between first last).length
    let middle := p.between first last ++ List.replicate spare first
    refine ⟨(first :: middle) ++ [last], ?_, fun r hr => ?_, fits_some.2 hstart, ?_⟩
    · simp only [middle, spare, List.length_append, List.length_cons, List.length_replicate,
        List.length_nil]
      omega
    · by_cases hfirst : r = first
      · exact hfirst ▸ List.mem_cons_self
      by_cases hlast : r = last
      · exact hlast ▸ List.mem_append_right _ (List.mem_singleton_self _)
      have hr' : r ∈ p.between first last := List.mem_filter.2 ⟨hr, by simp [hfirst, hlast]⟩
      exact List.mem_append_left _ (List.mem_cons_of_mem _ (List.mem_append_left _ hr'))
    · rw [List.getLast?_concat, fits_some]
      exact hfinish

/-- There are characters of suitable classes exactly if there is room for them. -/
theorem exists_arranged_iff (hn : 0 < n) :
    (∃ classes, classes.length = n ∧ p.Arranged classes) ↔ p.HasRoom n := by
  refine ⟨?_, exists_arranged hn⟩
  rintro ⟨classes, rfl, h⟩
  exact h.hasRoom

/-- A password whose characters have the classes of a list. -/
def ofClasses (classes : List CharacterClass) : String :=
  .ofList (classes.map fun k => k.pick 0)

theorem filterMap_ofClasses : (ofClasses classes).toList.filterMap of? = classes := by
  have hpick : of? ∘ (fun k => k.pick 0) = some := funext fun k => of?_pick k 0
  rw [ofClasses, String.toList_ofList, List.filterMap_map, hpick, List.filterMap_some]

theorem length_ofClasses : (ofClasses classes).length = classes.length := by
  rw [ofClasses, String.length_ofList, List.length_map]

theorem admitsLength_ofNat_iff (hn : n < UInt32.size) (hmax : p.maxLength.toNat ≠ 0) :
    p.admitsLength (.ofNat n) ↔ p.minLength.toNat ≤ n ∧ n ≤ p.maxLength.toNat := by
  have hmax' : p.maxLength ≠ 0 := fun h => hmax (by rw [h]; rfl)
  have hnat : (UInt32.ofNat n).toNat = n := UInt32.toNat_ofNat_of_lt' hn
  simp only [admitsLength, Bool.and_eq_true, Bool.or_eq_true, decide_eq_true_eq, beq_iff_eq, hmax',
    false_or, UInt32.le_iff_toNat_le, hnat]

/-- A length that has wrapped around once counts as the minimal length. -/
theorem admitsLength_wrapped (hle : p.minLength.toNat ≤ p.maxLength.toNat) :
    p.admitsLength (.ofNat (UInt32.size + p.minLength.toNat)) := by
  have hlt := p.minLength.toNat_lt
  have hwrap : UInt32.ofNat (UInt32.size + p.minLength.toNat) = p.minLength := by
    rw [← UInt32.toNat_inj, UInt32.toNat_ofNat', Nat.add_comm]
    exact (Nat.add_mod_right _ _).trans (Nat.mod_eq_of_lt hlt)
  rw [hwrap, admitsLength, decide_eq_true (UInt32.le_refl _),
    decide_eq_true (UInt32.le_iff_toNat_le.2 hle), Bool.or_true, Bool.and_true]

theorem isOpen_of_complies {password : String} (h : p.complies password) :
    p.start.IsOpen ∧ p.finish.IsOpen := by
  obtain ⟨-, harranged, -⟩ := complies_iff_arranged.1 h
  exact harranged.hasRoom.isOpen

theorem hasRoom_of_complies {password : String} (hmax : p.maxLength.toNat ≠ 0)
    (hlt : password.length < UInt32.size) (h : p.complies password) :
    p.HasRoom p.maxLength.toNat := by
  obtain ⟨hlength, harranged, -⟩ := complies_iff_arranged.1 h
  rw [String.length_toList, admitsLength_ofNat_iff hlt hmax] at hlength
  refine harranged.hasRoom.mono (Nat.le_trans (List.length_filterMap_le _ _) ?_)
  rw [String.length_toList]
  exact hlength.2

section Free

variable (hprefixes : p.forbiddenPrefixes = []) (hsuffixes : p.forbiddenSuffixes = [])

include hprefixes hsuffixes

/-- Without forbidden ways to start and end any length that is admitted and has room will do. -/
theorem exists_complies_of_hasRoom (hn : 0 < n) (hroom : p.HasRoom n)
    (hlength : p.admitsLength (.ofNat n)) :
    ∃ password : String, password.length = n ∧ p.complies password := by
  obtain ⟨classes, rfl, harranged⟩ := exists_arranged hn hroom
  refine ⟨ofClasses classes, length_ofClasses, complies_iff_arranged.2 ⟨?_, ?_, ?_, ?_⟩⟩
  · rwa [String.length_toList, length_ofClasses]
  · rwa [filterMap_ofClasses]
  · rw [startsBadly, hprefixes, List.any_nil]
  · rw [endsBadly, hsuffixes, List.any_nil]

variable (hmin : 0 < p.minLength.toNat) (hle : p.minLength.toNat ≤ p.maxLength.toNat)

include hmin hle

/-- A password of a length that does not wrap around complies exactly if the maximal length has
room. -/
theorem exists_complies_lt_iff :
    (∃ password : String, password.length < UInt32.size ∧ p.complies password) ↔
      p.HasRoom p.maxLength.toNat := by
  have hmax : p.maxLength.toNat ≠ 0 := by omega
  constructor
  · rintro ⟨password, hlt, h⟩
    exact hasRoom_of_complies hmax hlt h
  · intro hroom
    have hlt : p.maxLength.toNat < UInt32.size := p.maxLength.toNat_lt
    obtain ⟨password, hlength, h⟩ := exists_complies_of_hasRoom hprefixes hsuffixes (by omega) hroom
      ((admitsLength_ofNat_iff hlt hmax).2 ⟨hle, Nat.le_refl _⟩)
    exact ⟨password, by omega, h⟩

/-- Some password complies exactly if there is a class for either end. -/
theorem exists_complies_iff :
    (∃ password, p.complies password) ↔ p.start.IsOpen ∧ p.finish.IsOpen := by
  constructor
  · rintro ⟨password, h⟩
    exact isOpen_of_complies h
  · intro hopen
    have hroom : p.HasRoom (UInt32.size + p.minLength.toNat) :=
      hasRoom_of_isOpen hopen (Nat.le_add_right_of_le (by decide))
    obtain ⟨password, -, h⟩ := exists_complies_of_hasRoom hprefixes hsuffixes (by omega) hroom
      (admitsLength_wrapped hle)
    exact ⟨password, h⟩

end Free

end PasswordPolicy

end Provisioning
