import Provisioning.Proofs.Placing

/-!
# Policies that are given up too early

The classes of a password are chosen one after the other, first for the ends, and no choice is
revised. Where no ways to start and end are forbidden this gives a policy up although there is room
for a password in two cases (`Overlooked`): a single place must do for both ends though a second one
would be admitted, or the maximal length is the number of the required classes, and the start takes
the only one of them that may stand last. In all other cases a policy that is given up is one that
no password complies with (`generateFor_complete_iff`), as long as lengths do not wrap around.
-/

namespace Provisioning

namespace PasswordPolicy

open CharacterClass

variable {p : PasswordPolicy} {draws : Draws} {retries : UInt32} {n : Nat}

/-- The ends may have required classes, or take places beyond those of the required classes. -/
theorem length_between (first last : CharacterClass) :
    (p.between first last).length + (if first ∈ p.requiredClasses ∧ first ≠ last then 1 else 0) +
      (if last ∈ p.requiredClasses then 1 else 0) = p.requiredClasses.length := by
  have hlast := length_filter_ne (nodup_requiredClasses (p := p)) last
  have hfirst := length_filter_ne (nodup_requiredClasses (p := p).filter fun k => k != last) first
  rw [List.filter_filter] at hfirst
  have hmem : first ∈ (p.requiredClasses.filter fun k => k != last) ↔
      first ∈ p.requiredClasses ∧ first ≠ last := by
    rw [List.mem_filter, bne_iff_ne]
  rw [if_congr hmem rfl rfl] at hfirst
  unfold between
  omega

theorem length_requiredClasses_le_one {k : CharacterClass} (h : ∀ r ∈ p.requiredClasses, r = k) :
    p.requiredClasses.length ≤ 1 :=
  (nodup_requiredClasses.subperm fun r hr => List.mem_singleton.2 (h r hr)).length_le

theorem HasRoom.length_requiredClasses_le (hn : 1 ≤ n) (h : p.HasRoom n) :
    p.requiredClasses.length ≤ n := by
  rcases h with ⟨k, -, -, hrequired⟩ | ⟨first, last, -, -, hle⟩
  · exact Nat.le_trans (length_requiredClasses_le_one hrequired) hn
  · have hlength := length_between (p := p) first last
    split_ifs at hlength <;> omega

/-- Each end that may have none of the required classes needs a place beyond theirs. -/
theorem HasRoom.length_add_le (hn : 2 ≤ n) (h : p.HasRoom n) :
    p.requiredClasses.length + (if ∃ r ∈ p.requiredClasses, p.start.allows r then 0 else 1) +
      (if ∃ r ∈ p.requiredClasses, p.finish.allows r then 0 else 1) ≤ n := by
  rcases h with ⟨k, hstart, hfinish, hrequired⟩ | ⟨first, last, hstart, hfinish, hle⟩
  · rcases hr : p.requiredClasses with _ | ⟨r, rs⟩
    · simpa using hn
    · have hmem : r ∈ p.requiredClasses := hr ▸ List.mem_cons_self
      obtain rfl := hrequired r hmem
      have hone := length_requiredClasses_le_one hrequired
      rw [← hr, if_pos ⟨r, hmem, hstart⟩, if_pos ⟨r, hmem, hfinish⟩]
      omega
  · have hlength := length_between (p := p) first last
    have hfirst : (if first ∈ p.requiredClasses ∧ first ≠ last then 1 else 0) +
        (if ∃ r ∈ p.requiredClasses, p.start.allows r then 0 else 1) ≤ 1 := by
      split_ifs with hmem hex <;> try omega
      exact absurd ⟨first, hmem.1, hstart⟩ hex
    have hlast : (if last ∈ p.requiredClasses then 1 else 0) +
        (if ∃ r ∈ p.requiredClasses, p.finish.allows r then 0 else 1) ≤ 1 := by
      split_ifs with hmem hex <;> try omega
      exact absurd ⟨last, hmem, hfinish⟩ hex
    omega

/-- No required class may stand at both ends, and either no class may or the single place is one too
many beside the required classes. -/
def StuckAtOne (p : PasswordPolicy) : Prop :=
  (∀ r ∈ p.requiredClasses, ¬p.allowsBoth r) ∧
    ((¬∃ k, p.allowsBoth k) ∨ p.requiredClasses.length = p.maxLength.toNat)

/-- The start takes the only required class that may stand last. -/
def StartTakesLast (p : PasswordPolicy) : Prop :=
  p.start.isLimited ∧ ∃ k, firstRequired? p.start.allows p.requiredClasses = some k ∧
    ∀ r ∈ p.requiredClasses, p.finish.allows r → r = k

/-- The end has to take a place beyond those of the required classes, and there is none. -/
def StuckAtEnds (p : PasswordPolicy) : Prop :=
  p.StartTakesLast ∧ p.requiredClasses.length = p.maxLength.toNat

/-- There is room for a password, and none is found. -/
def Overlooked (p : PasswordPolicy) : Prop :=
  p.HasRoom p.maxLength.toNat ∧ if p.minLength.toNat = 1 then p.StuckAtOne else p.StuckAtEnds

/-- With room for a password a single place is given up exactly if it is stuck. -/
theorem slots_ok_iff_not_stuckAtOne (hmin : p.minLength.toNat = 1) (hle : 1 ≤ p.maxLength.toNat)
    (hroom : p.HasRoom p.maxLength.toNat) :
    (∃ slots, p.slots draws = .ok slots) ↔ ¬p.StuckAtOne := by
  have hrequired := hroom.length_requiredClasses_le hle
  rw [slots_ok_iff_of_one hmin hle, length_waiting nodup_requiredClasses]
  by_cases hserved : ∃ r ∈ p.requiredClasses, p.allowsBoth r
  · obtain ⟨r, hr, ha⟩ := hserved
    rw [if_neg fun h => h.2 ⟨r, hr, ha⟩]
    exact iff_of_true ⟨⟨r, ha⟩, hrequired⟩ fun h => h.1 r hr ha
  · have hnone : ∀ r ∈ p.requiredClasses, ¬p.allowsBoth r := fun r hr ha => hserved ⟨r, hr, ha⟩
    rw [StuckAtOne, and_iff_right hnone, not_or, not_not]
    refine and_congr_right fun _ => ?_
    split_ifs with hlimited
    · omega
    · have hall := allowsBoth_of_not_isLimited fun hl => hlimited ⟨hl, hserved⟩
      have hnil := List.eq_nil_iff_forall_not_mem.2 fun r hr => hnone r hr (hall r)
      rw [hnil, List.length_nil]
      omega

/-- The end still finds a required class that may stand last, unless the start has taken it. -/
theorem exists_mem_waiting_iff :
    (∃ r ∈ waiting p.start.isLimited p.start.allows p.requiredClasses, p.finish.allows r) ↔
      (∃ r ∈ p.requiredClasses, p.finish.allows r) ∧ ¬p.StartTakesLast := by
  rcases hl : p.start.isLimited
  · simp [waiting, StartTakesLast, hl]
  rcases hk : firstRequired? p.start.allows p.requiredClasses with _ | k
  · simp [waiting_of_eq_none hk, StartTakesLast, hk]
  · have htakes : p.StartTakesLast ↔ ∀ r ∈ p.requiredClasses, p.finish.allows r → r = k := by
      simp [StartTakesLast, hl, hk]
    rw [waiting_of_eq_some hk, htakes]
    constructor
    · rintro ⟨r, hr, ha⟩
      obtain ⟨hr, hne⟩ := List.mem_filter.1 hr
      exact ⟨⟨r, hr, ha⟩, fun h => bne_iff_ne.1 hne (h r hr ha)⟩
    · rintro ⟨-, h⟩
      push Not at h
      obtain ⟨r, hr, ha, hne⟩ := h
      exact ⟨r, List.mem_filter.2 ⟨hr, bne_iff_ne.2 hne⟩, ha⟩

/-- With room for a password two places and more are given up exactly if the ends are stuck. -/
theorem slots_ok_iff_not_stuckAtEnds (hmin : 2 ≤ p.minLength.toNat)
    (hle : p.minLength.toNat ≤ p.maxLength.toNat) (hroom : p.HasRoom p.maxLength.toNat) :
    (∃ slots, p.slots draws = .ok slots) ↔ ¬p.StuckAtEnds := by
  rw [slots_ok_iff_of_two hmin hle, and_iff_right hroom.isOpen,
    length_waiting (nodup_waiting nodup_requiredClasses _), ← Nat.add_assoc,
    length_waiting nodup_requiredClasses]
  -- The end takes a place of its own although a required class may stand there only if the start
  -- has taken this class. Otherwise the room for a password is room for both ends.
  by_cases htakes : p.StartTakesLast
  · have hrequired := hroom.length_requiredClasses_le (by omega)
    obtain ⟨-, k, hk, hlast⟩ := id htakes
    obtain ⟨ha, hmem⟩ := firstRequired?_eq_some hk
    rw [StuckAtEnds, and_iff_right htakes, if_neg fun h => h.2 ⟨k, hmem, ha⟩]
    by_cases hlimited : p.finish.isLimited
    · have hnone : ¬∃ r ∈ waiting p.start.isLimited p.start.allows p.requiredClasses,
          p.finish.allows r := fun h => (exists_mem_waiting_iff.1 h).2 htakes
      rw [if_pos ⟨hlimited, hnone⟩]
      omega
    · have hone : p.requiredClasses.length ≤ 1 := length_requiredClasses_le_one fun r hr =>
        hlast r hr (Placement.allows_of_not_isLimited hlimited r)
      rw [if_neg fun h => hlimited h.1]
      omega
  · have hrequired := hroom.length_add_le (by omega)
    have hstart : (if p.start.isLimited ∧ ¬∃ r ∈ p.requiredClasses, p.start.allows r
        then 1 else 0) ≤ if ∃ r ∈ p.requiredClasses, p.start.allows r then 0 else 1 := by
      split_ifs with hnone hserved <;> try omega
      exact absurd hserved hnone.2
    have hfinish : (if p.finish.isLimited ∧
          ¬∃ r ∈ waiting p.start.isLimited p.start.allows p.requiredClasses, p.finish.allows r
        then 1 else 0) ≤ if ∃ r ∈ p.requiredClasses, p.finish.allows r then 0 else 1 := by
      split_ifs with hnone hserved <;> try omega
      exact absurd (exists_mem_waiting_iff.2 ⟨hserved, htakes⟩) hnone.2
    exact iff_of_true (by omega) fun h => htakes h.1

/-- Where no ways to start and end are forbidden a password is made as soon as its places are
filled. -/
theorem generate_of_free (hcheck : p.check = .ok ()) (hprefixes : p.forbiddenPrefixes = [])
    (hsuffixes : p.forbiddenSuffixes = []) : p.generate retries draws =
      (p.slots draws).map fun slots => String.ofList (write draws (fill draws slots)) := by
  have hsettle (classes : List CharacterClass) (cs : List Char) :
      p.settle draws classes (retries.toNat + 1) 0 cs = .ok cs := by
    simp [settle, startsBadly, endsBadly, hprefixes, hsuffixes]
  rw [generate, hcheck]
  rcases p.slots draws with e | slots
  · rfl
  · show (p.settle draws _ (retries.toNat + 1) 0 _ >>= _) = _
    rw [hsettle]
    rfl

theorem generate_error_iff (hcheck : p.check = .ok ()) (hprefixes : p.forbiddenPrefixes = [])
    (hsuffixes : p.forbiddenSuffixes = []) :
    (∃ e, p.generate retries draws = .error e) ↔ ¬∃ slots, p.slots draws = .ok slots := by
  rw [generate_of_free hcheck hprefixes hsuffixes]
  rcases p.slots draws with e | slots
  · exact iff_of_true ⟨e, rfl⟩ (by simp)
  · exact iff_of_false (by simp [Except.map]) (by simp)

/-- A policy is given up although there is room for a password exactly if it is overlooked. -/
theorem error_and_hasRoom_iff (hcheck : p.check = .ok ()) (hprefixes : p.forbiddenPrefixes = [])
    (hsuffixes : p.forbiddenSuffixes = []) :
    (∃ e, p.generate retries draws = .error e) ∧ p.HasRoom p.maxLength.toNat ↔ p.Overlooked := by
  obtain ⟨hpos, hle⟩ := check_eq_ok hcheck
  rw [generate_error_iff hcheck hprefixes hsuffixes, Overlooked, and_comm]
  refine and_congr_right fun hroom => ?_
  split_ifs with hone
  · rw [slots_ok_iff_not_stuckAtOne hone (by omega) hroom, not_not]
  · rw [slots_ok_iff_not_stuckAtEnds (by omega) hle hroom, not_not]

variable {policies : List PasswordPolicy}

/-- If no password is made for policies that are in order and forbid no ways to start and end, none
complies with them whose length does not wrap around, exactly if they are not overlooked. Of the
passwords of any length none complies exactly if no class may stand at one of the ends. -/
theorem generateFor_complete_iff (hcheck : (merge policies).check = .ok ())
    (hprefixes : (merge policies).forbiddenPrefixes = [])
    (hsuffixes : (merge policies).forbiddenSuffixes = []) :
    (((∃ e, generateFor policies retries draws = .error e) →
        ∀ password : String, password.length < UInt32.size →
          (merge policies).complies password = false) ↔ ¬(merge policies).Overlooked) ∧
    ((∃ e, generateFor policies retries draws = .error e) →
      ((∀ password, (merge policies).complies password = false) ↔
        ¬((merge policies).start.IsOpen ∧ (merge policies).finish.IsOpen))) := by
  obtain ⟨hpos, hle⟩ := check_eq_ok hcheck
  have hoverlooked : (∃ e, generateFor policies retries draws = .error e) ∧
      (merge policies).HasRoom (merge policies).maxLength.toNat ↔ (merge policies).Overlooked :=
    error_and_hasRoom_iff hcheck hprefixes hsuffixes
  rw [← exists_complies_lt_iff hprefixes hsuffixes hpos hle] at hoverlooked
  have hopen := exists_complies_iff hprefixes hsuffixes hpos hle
  refine ⟨?_, fun _ => ?_⟩
  · rw [← hoverlooked]
    simp only [not_and, not_exists, Bool.not_eq_true]
  · rw [← hopen]
    simp only [not_exists, Bool.not_eq_true]

/-- A policy for passwords of two characters of three classes. -/
def threeClasses : PasswordPolicy :=
  { free with
    minLength := 2, maxLength := 2, digitRequired := true, upperRequired := true
    lowerRequired := true }

theorem generateFor_complete_iff_threeClasses :
    let draws : Draws := ⟨0, 0, fun _ => true, fun _ => 0, fun _ => 1, fun _ => 1⟩
    (merge [threeClasses]).check = .ok () ∧ (merge [threeClasses]).forbiddenPrefixes = [] ∧
      (merge [threeClasses]).forbiddenSuffixes = [] ∧
      generateFor [threeClasses] 64 draws = .error noRoom ∧
      ∀ password : String, password.length < UInt32.size →
        (merge [threeClasses]).complies password = false := by
  intro draws
  have hcheck : (merge [threeClasses]).check = .ok () := by decide
  have herror : generateFor [threeClasses] 64 draws = .error noRoom := by rfl
  have hfree : ¬(merge [threeClasses]).Overlooked := by
    rintro ⟨hroom, -⟩
    exact absurd (hroom.length_requiredClasses_le (by decide)) (by decide)
  exact ⟨hcheck, by decide, by decide, herror,
    (generateFor_complete_iff hcheck (by decide) (by decide)).1.2 hfree ⟨_, herror⟩⟩

/-- A policy for passwords of a digit and an upper-case letter, of which no special character stands
first and a letter last. -/
def digitThenUpper : PasswordPolicy :=
  { free with
    minLength := 2, maxLength := 2, digitRequired := true, upperRequired := true
    start := { Placement.free with mustntSpecial := true }
    finish := { Placement.free with mustAlpha := true } }

/-- A policy for passwords that start with a letter and end with a digit. -/
def letterThenDigit : PasswordPolicy :=
  { free with
    minLength := 1, maxLength := 8
    start := { Placement.free with mustAlpha := true }
    finish := { Placement.free with mustDigit := true } }

/-- Either policy is given up for one of the two reasons, and a password complies with it. -/
theorem error_of_complies :
    let draws : Draws := ⟨0, 0, fun _ => true, fun _ => 0, fun _ => 1, fun _ => 1⟩
    ((merge [digitThenUpper]).check = .ok () ∧ (merge [digitThenUpper]).forbiddenPrefixes = [] ∧
      (merge [digitThenUpper]).forbiddenSuffixes = [] ∧
      generateFor [digitThenUpper] 64 draws = .error noRoom ∧
      (merge [digitThenUpper]).complies "1A") ∧
    (merge [letterThenDigit]).check = .ok () ∧ (merge [letterThenDigit]).forbiddenPrefixes = [] ∧
      (merge [letterThenDigit]).forbiddenSuffixes = [] ∧
      generateFor [letterThenDigit] 64 draws = .error noStart ∧
      (merge [letterThenDigit]).complies "a1" := by
  intro draws
  exact ⟨⟨by decide, rfl, rfl, by rfl, by decide⟩, by decide, rfl, rfl, by rfl, by decide⟩

end PasswordPolicy

end Provisioning
