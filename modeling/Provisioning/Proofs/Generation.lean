import Mathlib.Tactic.Common
import Provisioning.Password.Generation
import Provisioning.Proofs.Runs

/-!
# What is generated complies

The places of a password under construction are kept well by every step (`Plan.Suits`): there are
enough of them and not too many, the ends that must have certain classes have them, and each
required class has its place or still waits for one. When the last one has its place
(`suits_slots`), all other places are letters, and each character is of the class of its place
(`map_of?_write`), also after an end was drawn anew (`map_of?_settle`).
-/

namespace Provisioning

namespace CharacterClass

theorem alphabet_length_pos (k : CharacterClass) : 0 < k.alphabet.length := by
  cases k <;> decide

theorem all_of?_alphabet (k : CharacterClass) : k.alphabet.all fun c => of? c == some k := by
  cases k <;> decide

theorem of?_pick (k : CharacterClass) (n : Nat) : of? (k.pick n) = some k := by
  rw [pick, List.getD_eq_getElem?_getD,
    List.getElem?_eq_getElem (Nat.mod_lt n k.alphabet_length_pos)]
  exact eq_of_beq (List.all_eq_true.1 k.all_of?_alphabet _ (List.getElem_mem _))

end CharacterClass

namespace PasswordPolicy

open CharacterClass

variable {p : PasswordPolicy} {draws : Draws}

theorem map_of?_write (classes : List CharacterClass) :
    (write draws classes).map of? = classes.map some := by
  refine List.ext_getElem? fun i => ?_
  rw [write, List.getElem?_map, List.getElem?_mapIdx, List.getElem?_map, Option.map_map]
  congr 1
  funext k
  exact of?_pick k _

theorem map_of?_redraw {classes : List CharacterClass} {cs : List Char}
    (h : cs.map of? = classes.map some) (place draw : Nat) :
    (redraw classes place draw cs).map of? = classes.map some := by
  unfold redraw
  rcases hk : classes[place]? with _ | k
  · exact h
  · refine List.ext_getElem? fun i => ?_
    simp only [List.map_set, h, List.getElem?_set, of?_pick]
    split_ifs with hi hl
    · subst hi
      rw [List.getElem?_map, hk]
      rfl
    · subst hi
      rw [List.length_map] at hl
      rw [List.getElem?_map, List.getElem?_eq_none (Nat.le_of_not_lt hl)]
      rfl
    · rfl

/-- A password is settled when both its ends are allowed, and its characters are of the same classes
still. -/
theorem map_of?_settle {classes : List CharacterClass} :
    ∀ {left attempt : Nat} {cs cs' : List Char}, cs.map of? = classes.map some →
      p.settle draws classes left attempt cs = .ok cs' →
      cs'.map of? = classes.map some ∧ p.startsBadly cs' = false ∧ p.endsBadly cs' = false
  | 0, _, _, _, _, h => by simp [settle] at h
  | left + 1, attempt, cs, cs', hcs, h => by
    simp only [settle] at h
    split_ifs at h with hok hs he he
    · obtain rfl := Except.ok.inj h
      simp only [Bool.and_eq_true, Bool.not_eq_true'] at hok
      exact ⟨hcs, hok⟩
    · exact map_of?_settle (map_of?_redraw (map_of?_redraw hcs _ _) _ _) h
    · exact map_of?_settle (map_of?_redraw hcs _ _) h
    · exact map_of?_settle (map_of?_redraw hcs _ _) h
    · exact map_of?_settle hcs h

/-- What holds of the places of a password for a policy when the ends must have certain classes. -/
structure Plan.Suits (p : PasswordPolicy) (start finish : Option (List CharacterClass))
    (plan : Plan) : Prop where
  least : p.minLength.toNat ≤ plan.slots.length
  most : plan.slots.length ≤ p.maxLength.toNat
  first : ∀ allowed, start = some allowed → ∃ k ∈ allowed, plan.slots[0]? = some (some k)
  last : ∀ allowed, finish = some allowed →
    ∃ k ∈ allowed, plan.slots[plan.slots.length - 1]? = some (some k)
  required : ∀ k ∈ p.requiredClasses, k ∈ plan.required ∨ some k ∈ plan.slots

section Plan

variable {plan plan' : Plan} {start finish : Option (List CharacterClass)}
  {allowed required : List CharacterClass} {k : CharacterClass} {draw place : Nat}

theorem mem_of_pickClass? (h : pickClass? allowed required draw = some k) : k ∈ allowed := by
  unfold pickClass? at h
  split at h
  · rename_i hf
    obtain rfl := Option.some.inj h
    exact List.mem_of_find?_eq_some hf
  · exact List.mem_of_getElem? h

theorem fix_cases (h : plan.fix allowed draw place = some plan') :
    ∃ k ∈ allowed, plan' = ⟨plan.slots.set place (some k), plan.required.filter fun r => r != k⟩ := by
  obtain ⟨k, hk, hp⟩ := Option.bind_eq_some_iff.1 h
  exact ⟨k, mem_of_pickClass? hk, (Option.some.inj hp).symm⟩

theorem getElem?_set_of_free {slots : List (Option CharacterClass)} {i j : Nat}
    (hi : slots[i]? = some none) (hj : slots[j]? = some (some k)) (l : CharacterClass) :
    (slots.set i (some l))[j]? = some (some k) := by
  rw [List.getElem?_set_ne, hj]
  rintro rfl
  rw [hi] at hj
  simp at hj

theorem mem_set_of_free {slots : List (Option CharacterClass)} {i : Nat}
    (hi : slots[i]? = some none) (h : some k ∈ slots) (l : CharacterClass) :
    some k ∈ slots.set i (some l) := by
  obtain ⟨j, hj⟩ := List.mem_iff_getElem?.1 h
  exact List.mem_iff_getElem?.2 ⟨j, getElem?_set_of_free hi hj l⟩

theorem Plan.Suits.fix (h : plan.Suits p start finish) (hfree : plan.slots[place]? = some none)
    (hf : plan.fix allowed draw place = some plan') :
    plan'.Suits p start finish ∧
      ∃ k ∈ allowed, plan'.slots = plan.slots.set place (some k) := by
  obtain ⟨k, hk, rfl⟩ := fix_cases hf
  obtain ⟨hplace, -⟩ := List.getElem?_eq_some_iff.1 hfree
  refine ⟨⟨?_, ?_, fun allowed ha => ?_, fun allowed ha => ?_, fun r hr => ?_⟩, k, hk, rfl⟩
  · rw [List.length_set]
    exact h.least
  · rw [List.length_set]
    exact h.most
  · obtain ⟨l, hl, hs⟩ := h.first allowed ha
    exact ⟨l, hl, getElem?_set_of_free hfree hs k⟩
  · obtain ⟨l, hl, hs⟩ := h.last allowed ha
    rw [List.length_set]
    exact ⟨l, hl, getElem?_set_of_free hfree hs k⟩
  · rcases h.required r hr with hw | hs
    · by_cases hrk : r = k
      · subst hrk
        exact .inr (List.mem_set hplace _)
      · exact .inl (List.mem_filter.2 ⟨hw, by simpa using hrk⟩)
    · exact .inr (mem_set_of_free hfree hs k)

theorem placeClass_cases {maxLength : Nat} {lastFixed : Bool}
    {slots slots' : List (Option CharacterClass)}
    (h : placeClass maxLength lastFixed slots k = .ok slots') :
    (∃ i, slots[i]? = some none ∧ slots' = slots.set i (some k)) ∨
      slots.length < maxLength ∧
        slots' = slots.insertIdx (if lastFixed then slots.length - 1 else slots.length) (some k) := by
  unfold placeClass at h
  split at h
  · rename_i i hi
    obtain ⟨hl, hn, -⟩ := List.findIdx?_eq_some_iff_getElem.1 hi
    refine .inl ⟨i, ?_, (Except.ok.inj h).symm⟩
    rw [List.getElem?_eq_getElem hl, Option.isNone_iff_eq_none.1 hn]
  · by_cases hl : slots.length < maxLength
    · rw [if_pos hl] at h
      exact .inr ⟨hl, (Except.ok.inj h).symm⟩
    · rw [if_neg hl] at h
      simp at h

/-- A class that waited is given a place. Where a last place is fixed there are two places at least,
so that the first one stays the first. -/
theorem Plan.Suits.placed {slots slots' : List (Option CharacterClass)} (hmin : 0 < p.minLength.toNat)
    (hfinish : finish.isSome → 2 ≤ p.minLength.toNat)
    (h : Plan.Suits p start finish ⟨slots, k :: required⟩)
    (hp : placeClass p.maxLength.toNat finish.isSome slots k = .ok slots') :
    Plan.Suits p start finish ⟨slots', required⟩ := by
  have hleast := h.least
  simp only at hleast
  rcases placeClass_cases hp with ⟨i, hi, rfl⟩ | ⟨hroom, rfl⟩
  · obtain ⟨hil, -⟩ := List.getElem?_eq_some_iff.1 hi
    refine ⟨?_, ?_, fun allowed ha => ?_, fun allowed ha => ?_, fun r hr => ?_⟩
    · rw [List.length_set]
      exact h.least
    · rw [List.length_set]
      exact h.most
    · obtain ⟨l, hl, hs⟩ := h.first allowed ha
      exact ⟨l, hl, getElem?_set_of_free hi hs k⟩
    · obtain ⟨l, hl, hs⟩ := h.last allowed ha
      rw [List.length_set]
      exact ⟨l, hl, getElem?_set_of_free hi hs k⟩
    · rcases h.required r hr with hw | hs
      · rcases List.mem_cons.1 hw with rfl | hw
        · exact .inr (List.mem_set hil _)
        · exact .inl hw
      · exact .inr (mem_set_of_free hi hs k)
  · generalize hat : (if finish.isSome then slots.length - 1 else slots.length) = at'
    have hat₁ : at' ≤ slots.length := by
      split_ifs at hat <;> omega
    have hat₀ : 0 < at' := by
      split_ifs at hat with hf
      · have := hfinish hf
        omega
      · omega
    have hlen : (slots.insertIdx at' (some k)).length = slots.length + 1 :=
      List.length_insertIdx_of_le_length hat₁ _
    refine ⟨?_, ?_, fun allowed ha => ?_, fun allowed ha => ?_, fun r hr => ?_⟩
    · rw [hlen]
      omega
    · rw [hlen]
      exact hroom
    · obtain ⟨l, hl, hs⟩ := h.first allowed ha
      exact ⟨l, hl, by rw [List.getElem?_insertIdx_of_lt hat₀, hs]⟩
    · obtain ⟨l, hl, hs⟩ := h.last allowed ha
      refine ⟨l, hl, ?_⟩
      rw [if_pos (by simp [ha])] at hat
      rw [hlen, List.getElem?_insertIdx_of_gt (by omega), ← hs]
      rfl
    · rw [List.mem_insertIdx hat₁]
      rcases h.required r hr with hw | hs
      · rcases List.mem_cons.1 hw with rfl | hw
        · exact .inr (.inl rfl)
        · exact .inl hw
      · exact .inr (.inr hs)

theorem Plan.Suits.placedAll (hmin : 0 < p.minLength.toNat)
    (hfinish : finish.isSome → 2 ≤ p.minLength.toNat) :
    ∀ {required : List CharacterClass} {slots slots' : List (Option CharacterClass)},
      Plan.Suits p start finish ⟨slots, required⟩ →
      required.foldlM (placeClass p.maxLength.toNat finish.isSome) slots = .ok slots' →
      Plan.Suits p start finish ⟨slots', []⟩
  | [], _, _, h, hp => by
    obtain rfl := Except.ok.inj hp
    exact h
  | k :: required, slots, slots', h, hp => by
    rw [List.foldlM_cons] at hp
    obtain ⟨slots₁, hk, hp₁⟩ := bind_eq_ok.1 hp
    exact (h.placed hmin hfinish hk).placedAll hmin hfinish hp₁

theorem fixEnd_cases {refusal : PolicyError}
    (h : plan.fixEnd start draw place refusal = .ok plan') :
    (start = none ∧ plan' = plan) ∨
      ∃ allowed, start = some allowed ∧ plan.fix allowed draw place = some plan' := by
  unfold Plan.fixEnd at h
  rcases start with _ | allowed
  · exact .inl ⟨rfl, (Except.ok.inj h).symm⟩
  · refine .inr ⟨allowed, rfl, ?_⟩
    rcases hf : plan.fix allowed draw place with _ | plan₁ <;> simp only [hf] at h
    · simp at h
    · rw [Except.ok.inj h]

end Plan

/-- All the places of a password suit the policy. -/
theorem suits_slots (hmin : 0 < p.minLength.toNat) (hle : p.minLength.toNat ≤ p.maxLength.toNat)
    {slots : List (Option CharacterClass)} (h : p.slots draws = .ok slots) :
    Plan.Suits p (p.ends p.minLength.toNat).1 (p.ends p.minLength.toNat).2 ⟨slots, []⟩ := by
  obtain ⟨n, hn⟩ : ∃ n, p.minLength.toNat = n := ⟨_, rfl⟩
  have hends : (p.ends n).2.isSome → 2 ≤ n := by
    unfold ends
    split_ifs with h₁
    · simp
    · omega
  rw [hn] at hmin hle ⊢
  rw [PasswordPolicy.slots, hn] at h
  generalize p.ends n = ends at h hends ⊢
  obtain ⟨start, finish⟩ := ends
  simp only at h hends ⊢
  obtain ⟨plan₁, h₁, hn₁⟩ := bind_eq_ok.1 h
  obtain ⟨plan₂, h₂, h₃⟩ := bind_eq_ok.1 hn₁
  have h₀ : Plan.Suits p none none ⟨List.replicate n none, p.requiredClasses⟩ :=
    ⟨by simp [hn], by simpa using hle, by simp, by simp, fun k hk => .inl hk⟩
  have hfree {i : Nat} (hi : i < n) : (List.replicate n (none : Option CharacterClass))[i]? =
      some none := by
    rw [List.getElem?_replicate, if_pos hi]
  have hstart : Plan.Suits p start none plan₁ ∧ plan₁.slots.length = n ∧
      (finish.isSome → plan₁.slots[n - 1]? = some none) := by
    rcases fixEnd_cases h₁ with ⟨rfl, rfl⟩ | ⟨allowed, rfl, hf⟩
    · exact ⟨h₀, by simp, fun _ => hfree (by omega)⟩
    · obtain ⟨hs, k, hk, hslots⟩ := h₀.fix (hfree hmin) hf
      rw [hslots]
      refine ⟨{ hs with first := ?_ }, by simp, fun hfin => ?_⟩
      · intro _ ha
        obtain rfl := Option.some.inj ha
        exact ⟨k, hk, by simp [hslots, hmin]⟩
      · have := hends hfin
        rw [List.getElem?_set_ne (by omega), hfree (by omega)]
  obtain ⟨hs₁, hlen, hlast⟩ := hstart
  have hfinish : Plan.Suits p start finish plan₂ := by
    rcases fixEnd_cases h₂ with ⟨rfl, rfl⟩ | ⟨allowed, rfl, hf⟩
    · exact hs₁
    · obtain ⟨hs, k, hk, hslots⟩ := hs₁.fix (hlast rfl) hf
      refine { hs with last := ?_ }
      intro _ ha
      obtain rfl := Option.some.inj ha
      exact ⟨k, hk, by rw [hslots, List.length_set, hlen, List.getElem?_set_self (by omega)]⟩
  exact hfinish.placedAll (by omega) (by rwa [hn]) h₃

section Fill

variable {slots : List (Option CharacterClass)} {k : CharacterClass}

theorem length_fill : (fill draws slots).length = slots.length :=
  List.length_mapIdx

theorem getElem?_fill {i : Nat} (h : slots[i]? = some (some k)) :
    (fill draws slots)[i]? = some k := by
  rw [fill, List.getElem?_mapIdx, h]
  rfl

theorem mem_fill (h : some k ∈ slots) : k ∈ fill draws slots := by
  obtain ⟨i, hi⟩ := List.mem_iff_getElem?.1 h
  exact List.mem_iff_getElem?.2 ⟨i, getElem?_fill hi⟩

end Fill

theorem check_eq_ok (h : p.check = .ok ()) :
    0 < p.minLength.toNat ∧ p.minLength.toNat ≤ p.maxLength.toNat := by
  unfold check at h
  split_ifs at h with h₁ h₂
  refine ⟨Nat.pos_of_ne_zero fun hz => h₁ (UInt32.toNat_inj.1 hz), ?_⟩
  exact Nat.le_of_not_lt fun hlt => h₂ (UInt32.lt_iff_toNat_lt.2 hlt)

/-- What a password that was made has gone through. -/
theorem generate_cases {retries : UInt32} {password : String}
    (h : p.generate retries draws = .ok password) :
    p.check = .ok () ∧ ∃ slots cs, p.slots draws = .ok slots ∧
      p.settle draws (fill draws slots) (retries.toNat + 1) 0 (write draws (fill draws slots)) =
        .ok cs ∧ password = String.ofList cs := by
  obtain ⟨⟨⟩, hc, h₁⟩ := bind_eq_ok.1 h
  obtain ⟨slots, hs, h₂⟩ := bind_eq_ok.1 h₁
  obtain ⟨cs, hcs, h₃⟩ := bind_eq_ok.1 h₂
  exact ⟨hc, slots, cs, hs, hcs, (Except.ok.inj h₃).symm⟩

/-- What a policy asks of the characters of a password. -/
structure Meets (p : PasswordPolicy) (cs : List Char) : Prop where
  least : p.minLength.toNat ≤ cs.length
  most : cs.length ≤ p.maxLength.toNat
  required : ∀ k ∈ p.requiredClasses, ∃ c ∈ cs, of? c = some k
  first : ∀ allowed, p.start.classes? = some allowed →
    ∃ c k, cs.head? = some c ∧ of? c = some k ∧ k ∈ allowed
  last : ∀ allowed, p.finish.classes? = some allowed →
    ∃ c k, cs.getLast? = some c ∧ of? c = some k ∧ k ∈ allowed
  prefixes : ∀ s ∈ p.forbiddenPrefixes, ¬s.toList <+: cs
  suffixes : ∀ s ∈ p.forbiddenSuffixes, ¬s.toList <:+ cs

theorem fits_of_mem {pl : Placement} {k : CharacterClass}
    (h : ∀ allowed, pl.classes? = some allowed → k ∈ allowed) : fits (some k) pl := by
  unfold fits
  rcases ha : pl.classes? with _ | allowed
  · rfl
  · simpa using h allowed ha

theorem fits_free {pl : Placement} (h : pl.classes? = none) (k : Option CharacterClass) :
    fits k pl := by
  simp only [fits, h]

theorem Meets.complies {cs : List Char} (h : p.Meets cs) : p.complies (String.ofList cs) := by
  have hlength : (UInt32.ofNat cs.length).toNat = cs.length :=
    UInt32.toNat_ofNat_of_lt' (Nat.lt_of_le_of_lt h.most p.maxLength.toNat_lt)
  have hadmits : p.admitsLength (.ofNat cs.length) := by
    have hleast : p.minLength ≤ .ofNat cs.length := by
      rw [UInt32.le_iff_toNat_le, hlength]
      exact h.least
    have hmost : .ofNat cs.length ≤ p.maxLength := by
      rw [UInt32.le_iff_toNat_le, hlength]
      exact h.most
    simp [admitsLength, hleast, hmost]
  have hrequired : p.requiredClasses.all (cs.filterMap of?).contains := by
    refine List.all_eq_true.2 fun k hk => ?_
    obtain ⟨c, hc, hck⟩ := h.required k hk
    simpa using ⟨c, hc, hck⟩
  have hfirst : fits (cs.filterMap of?).head? p.start := by
    rcases ha : p.start.classes? with _ | allowed
    · exact fits_free ha _
    · obtain ⟨c, k, hc, hk, hka⟩ := h.first allowed ha
      obtain ⟨rest, rfl⟩ := List.head?_eq_some_iff.1 hc
      rw [List.filterMap_cons_some hk, List.head?_cons]
      exact fits_of_mem fun _ ha' => Option.some.inj (ha.symm.trans ha') ▸ hka
  have hlast : fits (cs.filterMap of?).getLast? p.finish := by
    rcases ha : p.finish.classes? with _ | allowed
    · exact fits_free ha _
    · obtain ⟨c, k, hc, hk, hka⟩ := h.last allowed ha
      obtain ⟨rest, rfl⟩ := List.getLast?_eq_some_iff.1 hc
      rw [List.filterMap_append, List.filterMap_cons_some hk, List.filterMap_nil,
        List.getLast?_concat]
      exact fits_of_mem fun _ ha' => Option.some.inj (ha.symm.trans ha') ▸ hka
  have hstart : p.startsBadly cs = false :=
    List.any_eq_false.2 fun s hs => by simpa using h.prefixes s hs
  have hend : p.endsBadly cs = false :=
    List.any_eq_false.2 fun s hs => by simpa using h.suffixes s hs
  unfold PasswordPolicy.complies
  simp only [String.toList_ofList, hadmits, hrequired, hfirst, hlast, hstart, hend]
  rfl

theorem getElem?_of_map_of? {cs : List Char} {classes : List CharacterClass}
    (h : cs.map of? = classes.map some) {i : Nat} {k : CharacterClass} (hi : classes[i]? = some k) :
    ∃ c, cs[i]? = some c ∧ of? c = some k := by
  have hk : (cs.map of?)[i]? = some (some k) := by
    rw [h, List.getElem?_map, hi]
    rfl
  rw [List.getElem?_map] at hk
  exact Option.map_eq_some_iff.1 hk

/-- The characters of a password that was made have the classes of places that suit the policy. -/
theorem generate_classes {retries : UInt32} {password : String}
    (h : p.generate retries draws = .ok password) :
    ∃ slots, p.slots draws = .ok slots ∧
      Plan.Suits p (p.ends p.minLength.toNat).1 (p.ends p.minLength.toNat).2 ⟨slots, []⟩ ∧
      password.toList.map of? = (fill draws slots).map some ∧
      password.toList.length = slots.length ∧
      p.startsBadly password.toList = false ∧ p.endsBadly password.toList = false := by
  obtain ⟨hc, slots, cs, hs, hcs, rfl⟩ := generate_cases h
  obtain ⟨hpos, hle⟩ := check_eq_ok hc
  obtain ⟨hof, hstart, hend⟩ := map_of?_settle (map_of?_write _) hcs
  have hlen : cs.length = slots.length := by
    have := congrArg List.length hof
    rwa [List.length_map, List.length_map, length_fill] at this
  rw [String.toList_ofList]
  exact ⟨slots, hs, suits_slots hpos hle hs, hof, hlen, hstart, hend⟩

/-- A password of two places or more is made as the policy asks. -/
theorem meets_of_generate {retries : UInt32} {password : String} (hmin : 2 ≤ p.minLength)
    (h : p.generate retries draws = .ok password) : p.Meets password.toList := by
  obtain ⟨slots, -, hsuits, hof, hlen, hstart, hend⟩ := generate_classes h
  have hn : p.minLength.toNat ≠ 1 := by
    have h₂ : 2 ≤ p.minLength.toNat := UInt32.le_iff_toNat_le.1 hmin
    omega
  rw [ends, if_neg hn] at hsuits
  refine ⟨?_, ?_, fun k hk => ?_, fun allowed ha => ?_, fun allowed ha => ?_, fun s hs => ?_,
    fun s hs => ?_⟩
  · rw [hlen]
    exact hsuits.least
  · rw [hlen]
    exact hsuits.most
  · have hk₁ : k ∈ fill draws slots := mem_fill ((hsuits.required k hk).resolve_left (by simp))
    obtain ⟨i, hi⟩ := List.mem_iff_getElem?.1 hk₁
    obtain ⟨c, hc, hck⟩ := getElem?_of_map_of? hof hi
    exact ⟨c, List.mem_of_getElem? hc, hck⟩
  · obtain ⟨k, hk, hs₀⟩ := hsuits.first allowed ha
    obtain ⟨c, hc, hck⟩ := getElem?_of_map_of? hof (getElem?_fill hs₀)
    exact ⟨c, k, by rw [List.head?_eq_getElem?, hc], hck, hk⟩
  · obtain ⟨k, hk, hs₀⟩ := hsuits.last allowed ha
    obtain ⟨c, hc, hck⟩ := getElem?_of_map_of? hof (getElem?_fill hs₀)
    exact ⟨c, k, by rw [List.getLast?_eq_getElem?, hlen, hc], hck, hk⟩
  · simpa using List.any_eq_false.1 hstart s hs
  · simpa using List.any_eq_false.1 hend s hs

end PasswordPolicy

end Provisioning
