import Mathlib.Data.List.Count
import Provisioning.Proofs.Satisfiability

/-!
# Which required classes find a place

An end of a password that may have only some classes gets the first of them that is required, and
the required classes that are left wait (`waiting`). Each class that waits takes one more place, be
it a free one or a new one (`taken_placeClass`), so that all of them find a place exactly if the
maximal length is enough for them and the ends that are taken (`placeAll_ok_iff`). With this it is
settled by the policy alone whether the places of a password can be filled, whatever is drawn: for
one place in `slots_ok_iff_of_one`, for two and more in `slots_ok_iff_of_two`.
-/

namespace Provisioning

theorem CharacterClass.mem_all (k : CharacterClass) : k ∈ all := by
  cases k <;> decide

namespace PasswordPolicy

open CharacterClass

section Waiting

variable {allowed : CharacterClass → Bool} {required : List CharacterClass} {k : CharacterClass}

/-- The first class that is both allowed and required. -/
def firstRequired? (allowed : CharacterClass → Bool) (required : List CharacterClass) :
    Option CharacterClass :=
  all.find? fun k => allowed k && required.contains k

/-- The classes that are still required when an end has got its own. An end without limits gets
none. -/
def waiting (limited : Bool) (allowed : CharacterClass → Bool) (required : List CharacterClass) :
    List CharacterClass :=
  if limited then required.filter fun k => firstRequired? allowed required != some k else required

theorem firstRequired?_eq_some (h : firstRequired? allowed required = some k) :
    allowed k ∧ k ∈ required := by
  have hk := List.find?_some h
  simpa using hk

theorem firstRequired?_eq_none_iff :
    firstRequired? allowed required = none ↔ ∀ k ∈ required, ¬allowed k := by
  rw [firstRequired?, List.find?_eq_none]
  constructor
  · exact fun h k hk ha => h k (mem_all k) (by simp [hk, ha])
  · intro h k _ hk
    rw [Bool.and_eq_true, List.contains_iff_mem] at hk
    exact h k hk.2 hk.1

theorem waiting_of_eq_some (h : firstRequired? allowed required = some k) :
    waiting true allowed required = required.filter fun r => r != k := by
  rw [waiting, if_pos rfl, h]
  refine List.filter_congr fun r _ => ?_
  rw [Bool.eq_iff_iff, bne_iff_ne, bne_iff_ne, ne_eq, ne_eq, Option.some.injEq, eq_comm]

theorem waiting_of_eq_none (h : firstRequired? allowed required = none) :
    waiting true allowed required = required := by
  rw [waiting, if_pos rfl, h]
  exact List.filter_eq_self.2 fun r _ => rfl

theorem length_filter_ne (hnodup : required.Nodup) (k : CharacterClass) :
    (required.filter fun r => r != k).length + (if k ∈ required then 1 else 0) =
      required.length := by
  rw [← hnodup.erase_eq_filter, List.length_erase]
  split_ifs with hk
  · have := List.length_pos_of_mem hk
    omega
  · rfl

/-- An end with limits takes a place beyond those of the required classes exactly if none of them
may stand there. -/
theorem length_waiting (hnodup : required.Nodup) (limited : Bool)
    (allowed : CharacterClass → Bool) :
    limited.toNat + (waiting limited allowed required).length =
      required.length + (if limited ∧ ¬∃ k ∈ required, allowed k then 1 else 0) := by
  cases limited
  · simp [waiting]
  rcases h : firstRequired? allowed required with _ | k
  · have hnone : ¬∃ k ∈ required, allowed k := by
      rintro ⟨k, hk, ha⟩
      exact firstRequired?_eq_none_iff.1 h k hk ha
    rw [waiting_of_eq_none h, if_pos ⟨rfl, hnone⟩, Nat.add_comm]
    rfl
  · obtain ⟨ha, hk⟩ := firstRequired?_eq_some h
    have hlength := length_filter_ne hnodup k
    rw [if_pos hk] at hlength
    rw [waiting_of_eq_some h, if_neg fun hnone => hnone.2 ⟨k, hk, ha⟩, ← hlength, Nat.add_comm]
    rfl

theorem nodup_waiting (hnodup : required.Nodup) (limited : Bool) :
    (waiting limited allowed required).Nodup := by
  unfold waiting
  split_ifs
  · exact hnodup.filter _
  · exact hnodup

end Waiting

section Ends

variable {plan : Plan} {allowed : CharacterClass → Bool} {draw place : Nat} {refusal : PolicyError}

/-- The classes of an end, unless it has no limits. -/
def listed (limited : Bool) (allowed : CharacterClass → Bool) : Option (List CharacterClass) :=
  if limited then some (all.filter allowed) else none

theorem meet_classes? (p q : Placement) : meet p.classes? q.classes? =
    listed (p.isLimited || q.isLimited) fun k => p.allows k && q.allows k := by
  have hlisted (pl : Placement) : pl.classes? = listed pl.isLimited pl.allows := rfl
  rw [hlisted, hlisted]
  rcases hp : p.isLimited <;> rcases hq : q.isLimited
  · rfl
  · have hall (k : CharacterClass) : p.allows k = true := p.allows_of_not_isLimited (by simp [hp]) k
    simp only [listed, meet, hall, Bool.true_and, Bool.or_true]
    rfl
  · have hall (k : CharacterClass) : q.allows k = true := q.allows_of_not_isLimited (by simp [hq]) k
    simp only [listed, meet, hall, Bool.and_true, Bool.or_false]
    rfl
  · simp only [listed, meet, Bool.or_true, if_true, List.filter_filter]
    refine congrArg some (List.filter_congr fun k _ => ?_)
    rw [Bool.eq_iff_iff]
    simp [mem_all, and_comm]

theorem fixEnd_of_open (hopen : ∃ k, allowed k) :
    ∃ k, allowed k ∧ plan.fixEnd (listed true allowed) draw place refusal =
      .ok ⟨plan.slots.set place (some k), waiting true allowed plan.required⟩ := by
  have hfind : (all.filter allowed).find? plan.required.contains =
      firstRequired? allowed plan.required := by
    rw [List.find?_filter]
    exact congrArg (List.find? · all) (funext fun k => by rw [Bool.decide_and]; simp)
  have hpick : ∃ k, allowed k ∧ pickClass? (all.filter allowed) plan.required draw = some k ∧
      (plan.required.filter fun r => r != k) = waiting true allowed plan.required := by
    -- A required class is preferred, and only without one does the draw count.
    unfold pickClass?
    rw [hfind]
    rcases h : firstRequired? allowed plan.required with _ | k
    · obtain ⟨k₀, hk₀⟩ := hopen
      have hmem : k₀ ∈ all.filter allowed := List.mem_filter.2 ⟨mem_all k₀, hk₀⟩
      have hlt := Nat.mod_lt draw (List.length_pos_of_mem hmem)
      have hk := (List.mem_filter.1 (List.getElem_mem hlt)).2
      refine ⟨_, hk, List.getElem?_eq_getElem hlt, ?_⟩
      rw [waiting_of_eq_none h]
      refine List.filter_eq_self.2 fun r hr => ?_
      rw [bne_iff_ne]
      rintro rfl
      exact firstRequired?_eq_none_iff.1 h _ hr hk
    · exact ⟨k, (firstRequired?_eq_some h).1, rfl, (waiting_of_eq_some h).symm⟩
  obtain ⟨k, hk, hpick, hrest⟩ := hpick
  refine ⟨k, hk, ?_⟩
  rw [← hrest]
  simp only [listed, if_true, Plan.fixEnd, Plan.fix, hpick]
  rfl

theorem fixEnd_of_closed (hclosed : ¬∃ k, allowed k) :
    plan.fixEnd (listed true allowed) draw place refusal = .error refusal := by
  have hnil : all.filter allowed = [] :=
    List.filter_eq_nil_iff.2 fun k _ hk => hclosed ⟨k, hk⟩
  simp only [listed, if_true, hnil]
  rfl

end Ends

section Places

variable {maxLength : Nat} {lastFixed : Bool} {slots slots' : List (Option CharacterClass)}
  {k : CharacterClass}

/-- How many places have a class. -/
def taken (slots : List (Option CharacterClass)) : Nat :=
  slots.countP Option.isSome

theorem taken_set_of_free {i : Nat} (h : slots[i]? = some none) (k : CharacterClass) :
    taken (slots.set i (some k)) = taken slots + 1 := by
  obtain ⟨hlt, hi⟩ := List.getElem?_eq_some_iff.1 h
  rw [taken, List.countP_set hlt, hi]
  rfl

theorem taken_placeClass (hmost : slots.length ≤ maxLength)
    (h : placeClass maxLength lastFixed slots k = .ok slots') :
    taken slots' = taken slots + 1 ∧ slots'.length ≤ maxLength := by
  rcases placeClass_cases h with ⟨i, hi, rfl⟩ | ⟨hroom, rfl⟩
  · exact ⟨taken_set_of_free hi k, by rwa [List.length_set]⟩
  · have hat : (if lastFixed then slots.length - 1 else slots.length) ≤ slots.length := by
      split_ifs <;> omega
    rw [List.length_insertIdx_of_le_length hat, taken, (List.perm_insertIdx _ _ hat).countP_eq,
      List.countP_cons]
    exact ⟨rfl, hroom⟩

theorem placeClass_ok_iff (hmost : slots.length ≤ maxLength) :
    (∃ slots', placeClass maxLength lastFixed slots k = .ok slots') ↔ taken slots < maxLength := by
  unfold placeClass
  rcases hi : slots.findIdx? Option.isNone with _ | i
  · have hfull : taken slots = slots.length := by
      refine List.countP_eq_length.2 fun slot hs => ?_
      have hsome := List.findIdx?_eq_none_iff.1 hi slot hs
      rwa [Option.isNone_eq_false_iff] at hsome
    simp only
    by_cases hl : slots.length < maxLength
    · rw [if_pos hl]
      exact iff_of_true ⟨_, rfl⟩ (by omega)
    · rw [if_neg hl]
      exact iff_of_false (by simp) (by omega)
  · obtain ⟨hl, hnone, -⟩ := List.findIdx?_eq_some_iff_getElem.1 hi
    have hfree : taken slots < slots.length :=
      List.countP_lt_length_iff.2 ⟨slots[i], List.getElem_mem hl, by
        rw [Option.isNone_iff_eq_none.1 hnone]
        rfl⟩
    exact iff_of_true ⟨_, rfl⟩ (by omega)

/-- All the classes that wait find a place exactly if there are enough places for them. -/
theorem placeAll_ok_iff : ∀ {required : List CharacterClass}
    {slots : List (Option CharacterClass)}, slots.length ≤ maxLength →
      ((∃ slots', required.foldlM (placeClass maxLength lastFixed) slots = .ok slots') ↔
        taken slots + required.length ≤ maxLength)
  | [], slots, hmost => by
    have htaken : taken slots ≤ slots.length := List.countP_le_length
    exact iff_of_true ⟨slots, rfl⟩ (by rw [List.length_nil]; omega)
  | k :: required, slots, hmost => by
    rw [List.foldlM_cons, List.length_cons]
    constructor
    · rintro ⟨slots₂, h⟩
      obtain ⟨slots₁, h₁, h₂⟩ := bind_eq_ok.1 h
      obtain ⟨htaken, hmost₁⟩ := taken_placeClass hmost h₁
      have := (placeAll_ok_iff hmost₁).1 ⟨slots₂, h₂⟩
      omega
    · intro hle
      have hplace : ∃ slots₁, placeClass maxLength lastFixed slots k = .ok slots₁ :=
        (placeClass_ok_iff hmost).2 (by omega)
      obtain ⟨slots₁, h₁⟩ := hplace
      obtain ⟨htaken, hmost₁⟩ := taken_placeClass hmost h₁
      have hrest : ∃ slots₂,
          required.foldlM (placeClass maxLength lastFixed) slots₁ = .ok slots₂ :=
        (placeAll_ok_iff hmost₁).2 (by omega)
      obtain ⟨slots₂, h₂⟩ := hrest
      exact ⟨slots₂, bind_eq_ok.2 ⟨slots₁, h₁, h₂⟩⟩

end Places

/-- What an end that is open leaves behind: it takes its place if it has limits. -/
theorem fixEnd_ok {plan : Plan} (limited : Bool) {allowed : CharacterClass → Bool}
    (hopen : ∃ k, allowed k) {place : Nat} (hfree : plan.slots[place]? = some none) (draw : Nat)
    (refusal : PolicyError) :
    ∃ plan', plan.fixEnd (listed limited allowed) draw place refusal = .ok plan' ∧
      plan'.required = waiting limited allowed plan.required ∧
      plan'.slots.length = plan.slots.length ∧
      taken plan'.slots = taken plan.slots + limited.toNat ∧
      ∀ i, i ≠ place → plan'.slots[i]? = plan.slots[i]? := by
  cases limited
  · exact ⟨plan, rfl, rfl, rfl, rfl, fun _ _ => rfl⟩
  · obtain ⟨k, -, hfix⟩ := fixEnd_of_open hopen
    exact ⟨_, hfix, rfl, List.length_set, taken_set_of_free hfree k,
      fun i hi => List.getElem?_set_ne (Ne.symm hi)⟩

theorem open_of_fixEnd {plan plan' : Plan} {limited : Bool} {allowed : CharacterClass → Bool}
    {draw place : Nat} {refusal : PolicyError} (hfree : ¬limited → ∃ k, allowed k)
    (h : plan.fixEnd (listed limited allowed) draw place refusal = .ok plan') : ∃ k, allowed k := by
  cases limited
  · exact hfree Bool.false_ne_true
  · by_contra hclosed
    rw [fixEnd_of_closed hclosed] at h
    cases h

section Slots

variable {p : PasswordPolicy} {draws : Draws}

/-- The plan before any place has its class. -/
def blank (p : PasswordPolicy) : Plan :=
  ⟨List.replicate p.minLength.toNat none, p.requiredClasses⟩

theorem slots_of_ends {start finish : Option (List CharacterClass)}
    (h : p.ends p.minLength.toNat = (start, finish)) : p.slots draws = (do
      let plan ← p.blank.fixEnd start draws.start 0 noStart
      let plan ← plan.fixEnd finish draws.finish (p.minLength.toNat - 1) noEnd
      plan.required.foldlM (placeClass p.maxLength.toNat finish.isSome) plan.slots) := by
  unfold slots
  simp only [h]
  rfl

theorem slots_of_plans {start finish : Option (List CharacterClass)} {plan₁ plan₂ : Plan}
    (h : p.ends p.minLength.toNat = (start, finish))
    (h₁ : p.blank.fixEnd start draws.start 0 noStart = .ok plan₁)
    (h₂ : plan₁.fixEnd finish draws.finish (p.minLength.toNat - 1) noEnd = .ok plan₂) :
    p.slots draws =
      plan₂.required.foldlM (placeClass p.maxLength.toNat finish.isSome) plan₂.slots := by
  rw [slots_of_ends h, h₁]
  show (plan₁.fixEnd finish draws.finish (p.minLength.toNat - 1) noEnd >>= _) = _
  rw [h₂]
  rfl

theorem getElem?_blank {i : Nat} (h : i < p.minLength.toNat) :
    p.blank.slots[i]? = some none := by
  rw [blank, List.getElem?_replicate, if_pos h]

theorem length_blank : p.blank.slots.length = p.minLength.toNat :=
  List.length_replicate

theorem taken_blank : taken p.blank.slots = 0 := by
  rw [taken, blank, List.countP_replicate]
  rfl

/-- Whether a class may stand at both ends. -/
def allowsBoth (p : PasswordPolicy) (k : CharacterClass) : Bool :=
  p.start.allows k && p.finish.allows k

/-- Whether only some characters may stand at an end. -/
def isLimited (p : PasswordPolicy) : Bool :=
  p.start.isLimited || p.finish.isLimited

theorem allowsBoth_of_not_isLimited (h : ¬p.isLimited) (k : CharacterClass) : p.allowsBoth k := by
  rw [isLimited, Bool.or_eq_true, not_or] at h
  rw [allowsBoth, p.start.allows_of_not_isLimited h.1, p.finish.allows_of_not_isLimited h.2]
  rfl

theorem ends_of_one (h : p.minLength.toNat = 1) :
    p.ends p.minLength.toNat = (listed p.isLimited p.allowsBoth, none) := by
  rw [ends, if_pos h, meet_classes?]
  rfl

/-- A single place takes a class for both ends. Those that wait for another one come behind it. -/
theorem slots_ok_iff_of_one (hmin : p.minLength.toNat = 1) (hle : 1 ≤ p.maxLength.toNat) :
    (∃ slots, p.slots draws = .ok slots) ↔ (∃ k, p.allowsBoth k) ∧
      p.isLimited.toNat + (waiting p.isLimited p.allowsBoth p.requiredClasses).length ≤
        p.maxLength.toNat := by
  by_cases hopen : ∃ k, p.allowsBoth k
  · have hfree : p.blank.slots[0]? = some none := getElem?_blank (by omega)
    obtain ⟨plan, hplan, hrequired, hlength, htaken, -⟩ :=
      fixEnd_ok p.isLimited hopen hfree draws.start noStart
    have hmost : plan.slots.length ≤ p.maxLength.toNat := by
      rw [hlength, length_blank, hmin]
      exact hle
    rw [slots_of_plans (ends_of_one hmin) hplan rfl, placeAll_ok_iff hmost, htaken, hrequired,
      taken_blank, Nat.zero_add]
    exact (and_iff_right hopen).symm
  · refine iff_of_false ?_ fun h => hopen h.1
    rintro ⟨slots, h⟩
    rw [slots_of_ends (ends_of_one hmin)] at h
    obtain ⟨plan, hplan, -⟩ := bind_eq_ok.1 h
    exact hopen (open_of_fixEnd (fun hl => ⟨.upper, allowsBoth_of_not_isLimited hl _⟩) hplan)

/-- Two places and more take a class for each end. -/
theorem slots_ok_iff_of_two (hmin : 2 ≤ p.minLength.toNat)
    (hle : p.minLength.toNat ≤ p.maxLength.toNat) :
    (∃ slots, p.slots draws = .ok slots) ↔ (p.start.IsOpen ∧ p.finish.IsOpen) ∧
      p.start.isLimited.toNat + (p.finish.isLimited.toNat +
        (waiting p.finish.isLimited p.finish.allows
          (waiting p.start.isLimited p.start.allows p.requiredClasses)).length) ≤
        p.maxLength.toNat := by
  have hends : p.ends p.minLength.toNat = (listed p.start.isLimited p.start.allows,
      listed p.finish.isLimited p.finish.allows) := by
    rw [ends, if_neg (by omega)]
    rfl
  have hunlimited {pl : Placement} (hl : ¬pl.isLimited) : ∃ k, pl.allows k :=
    ⟨.upper, pl.allows_of_not_isLimited hl _⟩
  by_cases hopen : p.start.IsOpen ∧ p.finish.IsOpen
  · have hfree₁ : p.blank.slots[0]? = some none := getElem?_blank (by omega)
    obtain ⟨plan₁, hplan₁, hrequired₁, hlength₁, htaken₁, hother⟩ :=
      fixEnd_ok p.start.isLimited hopen.1 hfree₁ draws.start noStart
    have hfree₂ : plan₁.slots[p.minLength.toNat - 1]? = some none := by
      rw [hother _ (by omega)]
      exact getElem?_blank (by omega)
    obtain ⟨plan₂, hplan₂, hrequired₂, hlength₂, htaken₂, -⟩ :=
      fixEnd_ok p.finish.isLimited hopen.2 hfree₂ draws.finish noEnd
    have hmost : plan₂.slots.length ≤ p.maxLength.toNat := by
      rw [hlength₂, hlength₁, length_blank]
      exact hle
    rw [slots_of_plans hends hplan₁ hplan₂, placeAll_ok_iff hmost, htaken₂, htaken₁, hrequired₂,
      hrequired₁, taken_blank, Nat.zero_add, Nat.add_assoc]
    exact (and_iff_right hopen).symm
  · refine iff_of_false ?_ fun h => hopen h.1
    rintro ⟨slots, h⟩
    rw [slots_of_ends hends] at h
    obtain ⟨plan₁, hplan₁, h₁⟩ := bind_eq_ok.1 h
    obtain ⟨plan₂, hplan₂, -⟩ := bind_eq_ok.1 h₁
    exact hopen ⟨open_of_fixEnd hunlimited hplan₁, open_of_fixEnd hunlimited hplan₂⟩

end Slots

end PasswordPolicy

end Provisioning
