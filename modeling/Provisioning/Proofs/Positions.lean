import Provisioning.Proofs.Merging

/-!
# Which characters stand at the ends

A policy is compared with the classes of the characters, in their order; characters that belong to
no class are passed over (`complies_iff_arranged`). So what it asks of the first character is asked
of the first one that belongs to a class, and likewise at the end: the very first character is as
the policy asks exactly if it belongs to a class (`accepted_ends_of_complies`). Characters without a
class can be put around every password, as far as its length and the forbidden ways to start and end
allow (`complies_surrounded_iff`).
-/

namespace Provisioning

namespace Placement

open CharacterClass

variable {p : Placement} {cs : List Char}

/-- Whether only some characters may stand here. -/
def isLimited (p : Placement) : Bool :=
  p.demands || p.forbids

/-- Whether a character is of a class that may stand here. -/
def accepts (p : Placement) (c : Char) : Bool :=
  (of? c).any p.allows

/-- The first of the characters that belong to a class may stand here. -/
def LeadsIn (p : Placement) (cs : List Char) : Prop :=
  ∃ front c rest, cs = front ++ c :: rest ∧ (∀ d ∈ front, of? d = none) ∧ p.accepts c

theorem allows_of_not_isLimited (h : ¬p.isLimited) (k : CharacterClass) : p.allows k := by
  simp only [isLimited, Bool.or_eq_true, not_or, Bool.not_eq_true] at h
  obtain ⟨hd, hf⟩ := h
  simp only [forbids, Bool.or_eq_false_iff] at hf
  have hmustnt : p.mustnt k = false := by cases k <;> simp [mustnt, hf]
  rw [allows, hd, hmustnt]
  rfl

theorem accepts_iff {c : Char} : p.accepts c ↔ ∃ k, of? c = some k ∧ p.allows k := by
  rw [accepts, Option.any_eq_true]

theorem leadsIn_iff : p.LeadsIn cs ↔ ∃ k, (cs.filterMap of?).head? = some k ∧ p.allows k := by
  constructor
  · rintro ⟨front, c, rest, rfl, hfront, hc⟩
    obtain ⟨k, hk, ha⟩ := accepts_iff.1 hc
    refine ⟨k, ?_, ha⟩
    rw [List.filterMap_append, List.filterMap_eq_nil_iff.2 hfront, List.filterMap_cons_some hk]
    rfl
  · rintro ⟨k, hk, ha⟩
    obtain ⟨ks, hks⟩ := List.head?_eq_some_iff.1 hk
    obtain ⟨front, c, rest, rfl, hfront, hc, -⟩ := List.filterMap_eq_cons_iff.1 hks
    exact ⟨front, c, rest, rfl, hfront, accepts_iff.2 ⟨k, hc, ha⟩⟩

/-- Whether the first character may stand here, too, is a matter of its having a class. -/
theorem LeadsIn.head?_iff (h : p.LeadsIn cs) :
    (∃ c, cs.head? = some c ∧ p.accepts c) ↔ ∃ c, cs.head? = some c ∧ of? c ≠ none := by
  obtain ⟨front, c, rest, rfl, hfront, hc⟩ := h
  rcases front with _ | ⟨d, front⟩
  · have hof : of? c ≠ none := by
      intro hnone
      simp [accepts, hnone] at hc
    exact iff_of_true ⟨c, rfl, hc⟩ ⟨c, rfl, hof⟩
  · have hd := hfront d List.mem_cons_self
    simp [accepts, hd]

end Placement

namespace PasswordPolicy

open CharacterClass

variable {p : PasswordPolicy} {password : String}

theorem fits_some {pl : Placement} {k : CharacterClass} : fits (some k) pl ↔ pl.allows k := by
  rw [fits_iff]
  constructor
  · intro h
    by_cases hl : pl.isLimited
    · obtain ⟨c, hc, ha⟩ := h hl
      obtain rfl := Option.some.inj hc
      exact ha
    · exact Placement.allows_of_not_isLimited hl k
  · exact fun h _ => ⟨k, rfl, h⟩

theorem fits_none {pl : Placement} : fits none pl ↔ ¬pl.isLimited := by
  rw [fits_iff]
  simp [Placement.isLimited]

theorem fits_head?_iff {pl : Placement} {cs : List Char} :
    fits (cs.filterMap of?).head? pl ↔ (pl.isLimited → pl.LeadsIn cs) := by
  rw [fits_iff, Placement.leadsIn_iff]
  rfl

/-- What a policy asks of the classes of a password's characters, in their order. -/
structure Arranged (p : PasswordPolicy) (classes : List CharacterClass) : Prop where
  required : ∀ k ∈ p.requiredClasses, k ∈ classes
  first : fits classes.head? p.start
  last : fits classes.getLast? p.finish

theorem complies_iff_arranged : p.complies password ↔
    p.admitsLength (.ofNat password.toList.length) ∧ p.Arranged (password.toList.filterMap of?) ∧
      p.startsBadly password.toList = false ∧ p.endsBadly password.toList = false := by
  rw [complies_iff]
  constructor
  · rintro ⟨⟨hlength, hrequired, hstart, hend⟩, hfirst, hlast⟩
    exact ⟨hlength, ⟨hrequired, hfirst, hlast⟩, hstart, hend⟩
  · rintro ⟨hlength, ⟨hrequired, hfirst, hlast⟩, hstart, hend⟩
    exact ⟨⟨hlength, hrequired, hstart, hend⟩, hfirst, hlast⟩

theorem leadsIn_of_complies (h : p.complies password) :
    (p.start.isLimited → p.start.LeadsIn password.toList) ∧
      (p.finish.isLimited → p.finish.LeadsIn password.toList.reverse) := by
  obtain ⟨-, ⟨-, hfirst, hlast⟩, -, -⟩ := complies_iff_arranged.1 h
  rw [← List.head?_reverse, ← List.filterMap_reverse] at hlast
  exact ⟨fits_head?_iff.1 hfirst, fits_head?_iff.1 hlast⟩

/-- Of the characters of a password that complies the first and the last one with a class may stand
at the ends. The first and the last one of all are as the policy asks exactly if they belong to a
class. -/
theorem accepted_ends_of_complies (h : p.complies password) :
    (p.start.isLimited → p.start.LeadsIn password.toList ∧
      ((∃ c, password.toList.head? = some c ∧ p.start.accepts c) ↔
        ∃ c, password.toList.head? = some c ∧ of? c ≠ none)) ∧
    (p.finish.isLimited → p.finish.LeadsIn password.toList.reverse ∧
      ((∃ c, password.toList.getLast? = some c ∧ p.finish.accepts c) ↔
        ∃ c, password.toList.getLast? = some c ∧ of? c ≠ none)) := by
  obtain ⟨hstart, hfinish⟩ := leadsIn_of_complies h
  refine ⟨fun hl => ⟨hstart hl, (hstart hl).head?_iff⟩, fun hl => ⟨hfinish hl, ?_⟩⟩
  have hlast := (hfinish hl).head?_iff
  rwa [List.head?_reverse] at hlast

theorem accepted_ends_of_complies_tilde :
    let p := merge [letterFirst, digitLast]
    p.complies "~a1" ∧ p.start.isLimited ∧ p.start.LeadsIn "~a1".toList ∧ p.finish.isLimited ∧
      ∃ c, "~a1".toList.getLast? = some c ∧ p.finish.accepts c := by
  intro p
  have h : p.complies "~a1" := by decide
  obtain ⟨hstart, hfinish⟩ := accepted_ends_of_complies h
  have hlast : of? '1' ≠ none := by decide
  exact ⟨h, by decide, (hstart (by decide)).1, by decide,
    (hfinish (by decide)).2.2 ⟨'1', by decide, hlast⟩⟩

/-- A password complies although a letter must stand first and a digit last, and neither does. -/
theorem unclassified_ends_of_complies :
    let p := merge [letterFirst, digitLast]
    p.check = .ok () ∧ p.start.isLimited ∧ p.finish.isLimited ∧ p.complies "~a1 " ∧
      "~a1 ".toList.head? = some '~' ∧ p.start.accepts '~' = false ∧
      "~a1 ".toList.getLast? = some ' ' ∧ p.finish.accepts ' ' = false := by
  decide

/-- Characters without a class that are put around a password count only for its length and for the
forbidden ways to start and end. -/
theorem complies_surrounded_iff {front back : String} (h : p.complies password)
    (hfront : ∀ c ∈ front.toList, of? c = none) (hback : ∀ c ∈ back.toList, of? c = none) :
    p.complies (front ++ password ++ back) ↔
      p.admitsLength (.ofNat (front ++ password ++ back).toList.length) ∧
        p.startsBadly (front ++ password ++ back).toList = false ∧
        p.endsBadly (front ++ password ++ back).toList = false := by
  obtain ⟨-, harranged, -⟩ := complies_iff_arranged.1 h
  have hclasses : (front ++ password ++ back).toList.filterMap of? =
      password.toList.filterMap of? := by
    rw [String.toList_append, String.toList_append, List.filterMap_append, List.filterMap_append,
      List.filterMap_eq_nil_iff.2 hfront, List.filterMap_eq_nil_iff.2 hback, List.nil_append,
      List.append_nil]
  rw [complies_iff_arranged, hclasses]
  exact and_congr_right fun _ => and_iff_right harranged

end PasswordPolicy

end Provisioning
