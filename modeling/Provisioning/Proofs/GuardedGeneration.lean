import Provisioning.Proofs.Generation

/-!
# Making a password stays within its lists

Looking up a place that a list does not have gives something all the same when a password is made.
Here it is made once more so that this ends everything (`Guarded.generate`): no step may choose among
no classes, look up, change or insert at a place that is not there, or go below zero. Both ways come
to the same (`Guarded.generate_eq`), so that no such thing ever happens.
-/

namespace Provisioning

namespace PasswordPolicy

namespace Guarded

/-- A step that comes to nothing when it leaves a list, and else to a value or a refusal. -/
abbrev Step := ExceptT PolicyError Option

/-- A step that leaves no list. -/
def kept {α : Type} (x : Except PolicyError α) : Step α :=
  ExceptT.mk (some x)

/-- What is looked up must be there. -/
def found {α : Type} (x : Option α) : Step α :=
  ExceptT.mk (x.map Except.ok)

/-- The list with another element at a place that it must have. -/
def setAt {α : Type} (xs : List α) (i : Nat) (x : α) : Step (List α) :=
  found (if i < xs.length then some (xs.set i x) else none)

/-- The list with one more element at a place that it must have then. -/
def insertAt {α : Type} (xs : List α) (i : Nat) (x : α) : Step (List α) :=
  found (if i ≤ xs.length then some (xs.insertIdx i x) else none)

/-- The last of so many places, of which there must be one. -/
def lastPlace : Nat → Step Nat
  | 0 => found none
  | n + 1 => found (some n)

def pick (k : CharacterClass) (draw : Nat) : Step Char :=
  found k.alphabet[draw % k.alphabet.length]?

def fixEnd (plan : Plan) (allowed : Option (List CharacterClass)) (draw : Nat)
    (place : Step Nat) (refusal : PolicyError) : Step Plan :=
  match allowed with
  | none => return plan
  | some allowed => do
    if allowed.isEmpty then throw refusal
    else
      let k ← found (pickClass? allowed plan.required draw)
      let slots ← setAt plan.slots (← place) (some k)
      return ⟨slots, plan.required.filter fun r => r != k⟩

def placeClass (maxLength : Nat) (lastFixed : Bool) (slots : List (Option CharacterClass))
    (k : CharacterClass) : Step (List (Option CharacterClass)) := do
  match slots.findIdx? Option.isNone with
  | some i => setAt slots i (some k)
  | none =>
    if slots.length < maxLength then
      let place ← if lastFixed then lastPlace slots.length else pure slots.length
      insertAt slots place (some k)
    else throw noRoom

def slots (p : PasswordPolicy) (draws : Draws) : Step (List (Option CharacterClass)) := do
  let length := p.minLength.toNat
  let (start, finish) := p.ends length
  let plan : Plan := ⟨List.replicate length none, p.requiredClasses⟩
  let plan ← fixEnd plan start draws.start (pure 0) noStart
  let plan ← fixEnd plan finish draws.finish (lastPlace length) noEnd
  plan.required.foldlM (placeClass p.maxLength.toNat finish.isSome) plan.slots

def write (draws : Draws) : Nat → List CharacterClass → Step (List Char)
  | _, [] => return []
  | i, k :: ks => return (← pick k (draws.character i)) :: (← write draws (i + 1) ks)

def redraw (classes : List CharacterClass) (place draw : Nat) (cs : List Char) :
    Step (List Char) := do
  let k ← found classes[place]?
  setAt cs place (← pick k draw)

def settle (p : PasswordPolicy) (draws : Draws) (classes : List CharacterClass) :
    Nat → Nat → List Char → Step (List Char)
  | 0, _, _ => throw noAffix
  | left + 1, attempt, cs => do
    let badStart := p.startsBadly cs
    let badEnd := p.endsBadly cs
    if !badStart && !badEnd then return cs
    else
      let cs ← if badStart then redraw classes 0 (draws.first attempt) cs else pure cs
      let cs ←
        if badEnd then redraw classes (← lastPlace cs.length) (draws.last attempt) cs else pure cs
      settle p draws classes left (attempt + 1) cs

/-- A password for a policy, made without leaving a list. -/
def generate (p : PasswordPolicy) (retries : UInt32) (draws : Draws) : Step String := do
  kept p.check
  let classes := fill draws (← slots p draws)
  let cs ← settle p draws classes (retries.toNat + 1) 0 (← write draws 0 classes)
  return String.ofList cs

section

variable {α β : Type}

theorem kept_bind {x : Except PolicyError α} {f : α → Except PolicyError β} {g : α → Step β}
    (h : ∀ a, x = .ok a → g a = kept (f a)) : (kept x >>= g) = kept (x >>= f) := by
  rcases x with e | a
  · rfl
  · exact h a rfl

theorem kept_ok_bind {a : α} {g : α → Step β} : (kept (.ok a) >>= g) = g a :=
  rfl

theorem found_some (a : α) : found (some a) = kept (.ok a) :=
  rfl

theorem setAt_eq {xs : List α} {i : Nat} (h : i < xs.length) (x : α) :
    setAt xs i x = kept (.ok (xs.set i x)) := by
  rw [setAt, if_pos h, found_some]

theorem insertAt_eq {xs : List α} {i : Nat} (h : i ≤ xs.length) (x : α) :
    insertAt xs i x = kept (.ok (xs.insertIdx i x)) := by
  rw [insertAt, if_pos h, found_some]

theorem lastPlace_eq {n : Nat} (h : 0 < n) : lastPlace n = kept (.ok (n - 1)) := by
  obtain ⟨n, rfl⟩ := Nat.exists_eq_add_of_lt h
  rfl

theorem pick_eq (k : CharacterClass) (draw : Nat) : pick k draw = kept (.ok (k.pick draw)) := by
  have hlt := Nat.mod_lt draw k.alphabet_length_pos
  rw [pick, CharacterClass.pick, List.getD_eq_getElem?_getD, List.getElem?_eq_getElem hlt,
    found_some, Option.getD_some]

end

variable {p : PasswordPolicy} {draws : Draws} {plan : Plan} {classes : List CharacterClass}

theorem fixEnd_eq {allowed : Option (List CharacterClass)} {draw place : Nat} {refusal : PolicyError}
    (h : place < plan.slots.length) :
    fixEnd plan allowed draw (kept (.ok place)) refusal =
      kept (plan.fixEnd allowed draw place refusal) := by
  rcases allowed with _ | _ | ⟨k, ks⟩
  · rfl
  · rfl
  · obtain ⟨l, hl⟩ : ∃ l, pickClass? (k :: ks) plan.required draw = some l := by
      unfold pickClass?
      split
      · exact ⟨_, rfl⟩
      · exact ⟨_, List.getElem?_eq_getElem (Nat.mod_lt _ (by simp))⟩
    simp only [fixEnd, hl, Plan.fixEnd, Plan.fix]
    show setAt plan.slots place (some l) >>= _ = _
    rw [setAt_eq h]
    rfl

theorem placeClass_eq {maxLength : Nat} {lastFixed : Bool} {slots : List (Option CharacterClass)}
    {k : CharacterClass} (h : 0 < slots.length) :
    placeClass maxLength lastFixed slots k =
      kept (PasswordPolicy.placeClass maxLength lastFixed slots k) := by
  unfold placeClass PasswordPolicy.placeClass
  rcases hi : slots.findIdx? Option.isNone with _ | i
  · simp only
    split_ifs with hl hf
    · rw [lastPlace_eq h]
      exact insertAt_eq (Nat.sub_le _ _) _
    · exact insertAt_eq (Nat.le_refl _) _
    · rfl
  · obtain ⟨hl, -⟩ := List.findIdx?_eq_some_iff_getElem.1 hi
    exact setAt_eq hl _

theorem length_placeClass {maxLength : Nat} {lastFixed : Bool}
    {slots slots' : List (Option CharacterClass)} {k : CharacterClass}
    (h : PasswordPolicy.placeClass maxLength lastFixed slots k = .ok slots') :
    slots.length ≤ slots'.length := by
  rcases placeClass_cases h with ⟨i, -, rfl⟩ | ⟨-, rfl⟩
  · exact Nat.le_of_eq List.length_set.symm
  · rw [List.length_insertIdx]
    split_ifs <;> omega

theorem placeAll_eq {maxLength : Nat} {lastFixed : Bool} :
    ∀ {required : List CharacterClass} {slots : List (Option CharacterClass)}, 0 < slots.length →
      required.foldlM (placeClass maxLength lastFixed) slots =
        kept (required.foldlM (PasswordPolicy.placeClass maxLength lastFixed) slots)
  | [], _, _ => rfl
  | k :: required, slots, h => by
    rw [List.foldlM_cons, List.foldlM_cons, placeClass_eq h]
    exact kept_bind fun slots' hs =>
      placeAll_eq (Nat.lt_of_lt_of_le h (length_placeClass hs))

theorem length_fixEnd {plan' : Plan} {allowed : Option (List CharacterClass)} {draw place : Nat}
    {refusal : PolicyError} (h : plan.fixEnd allowed draw place refusal = .ok plan') :
    plan'.slots.length = plan.slots.length := by
  rcases fixEnd_cases h with ⟨-, rfl⟩ | ⟨ks, -, hf⟩
  · rfl
  · obtain ⟨k, -, rfl⟩ := fix_cases hf
    exact List.length_set

theorem slots_eq (h : 0 < p.minLength.toNat) : slots p draws = kept (p.slots draws) := by
  have hlength : (List.replicate p.minLength.toNat (none : Option CharacterClass)).length =
      p.minLength.toNat := List.length_replicate
  unfold slots PasswordPolicy.slots
  simp only [lastPlace_eq h]
  generalize p.ends p.minLength.toNat = ends
  show fixEnd _ ends.1 draws.start (kept (.ok 0)) noStart >>= _ = _
  rw [fixEnd_eq (by rw [hlength]; exact h)]
  refine kept_bind fun plan₁ h₁ => ?_
  have hlen₁ : plan₁.slots.length = p.minLength.toNat := (length_fixEnd h₁).trans hlength
  rw [fixEnd_eq (by omega)]
  refine kept_bind fun plan₂ h₂ => ?_
  exact placeAll_eq (by rw [length_fixEnd h₂, hlen₁]; exact h)

theorem write_eq : ∀ {i : Nat} {classes : List CharacterClass},
    write draws i classes =
      kept (.ok (classes.mapIdx fun j k => k.pick (draws.character (i + j))))
  | _, [] => rfl
  | i, k :: ks => by
    have hshift (j : Nat) : i + 1 + j = i + (j + 1) := by omega
    rw [write, pick_eq, kept_ok_bind, write_eq, kept_ok_bind, List.mapIdx_cons]
    simp only [hshift]
    rfl

theorem redraw_eq {place draw : Nat} {cs : List Char} (hk : place < classes.length)
    (hc : place < cs.length) :
    redraw classes place draw cs = kept (.ok (PasswordPolicy.redraw classes place draw cs)) := by
  unfold redraw PasswordPolicy.redraw
  rw [List.getElem?_eq_getElem hk, found_some, kept_ok_bind, pick_eq, kept_ok_bind]
  exact setAt_eq hc _

theorem length_redraw {place draw : Nat} {cs : List Char} :
    (PasswordPolicy.redraw classes place draw cs).length = cs.length := by
  unfold PasswordPolicy.redraw
  split
  · exact List.length_set
  · rfl

theorem settle_eq : ∀ {left attempt : Nat} {cs : List Char}, classes.length = cs.length →
    0 < cs.length → settle p draws classes left attempt cs =
      kept (p.settle draws classes left attempt cs)
  | 0, _, _, _, _ => rfl
  | left + 1, attempt, cs, hlen, hpos => by
    have hlast {cs' : List Char} (h : cs'.length = cs.length) : redraw classes (cs'.length - 1)
        (draws.last attempt) cs' = kept (.ok
          (PasswordPolicy.redraw classes (cs'.length - 1) (draws.last attempt) cs')) :=
      redraw_eq (by omega) (by omega)
    have hnext {cs' : List Char} (h : cs'.length = cs.length) :
        settle p draws classes left (attempt + 1) cs' =
          kept (p.settle draws classes left (attempt + 1) cs') :=
      settle_eq (by omega) (by omega)
    unfold settle PasswordPolicy.settle
    rcases p.startsBadly cs <;> rcases p.endsBadly cs <;>
      simp only [Bool.not_true, Bool.not_false, Bool.and_true, Bool.and_false,
        Bool.false_eq_true, if_true, if_false, pure_bind]
    · rfl
    · rw [lastPlace_eq hpos, kept_ok_bind, hlast rfl, kept_ok_bind]
      exact hnext length_redraw
    · rw [redraw_eq (by omega) hpos, kept_ok_bind]
      exact hnext length_redraw
    · rw [redraw_eq (by omega) hpos, kept_ok_bind, lastPlace_eq (by rw [length_redraw]; exact hpos),
        kept_ok_bind, hlast length_redraw, kept_ok_bind]
      exact hnext (length_redraw.trans length_redraw)

/-- Whatever is drawn, no list is left while a password is made. -/
theorem generate_eq (p : PasswordPolicy) (retries : UInt32) (draws : Draws) :
    generate p retries draws = kept (p.generate retries draws) := by
  refine kept_bind fun _ hc => ?_
  obtain ⟨hpos, hle⟩ := check_eq_ok hc
  rw [slots_eq hpos]
  refine kept_bind fun slots hs => ?_
  have hleast := (suits_slots hpos hle hs).least
  have hwrite : write draws 0 (fill draws slots) =
      kept (.ok (PasswordPolicy.write draws (fill draws slots))) := by
    rw [write_eq, PasswordPolicy.write]
    simp only [Nat.zero_add]
  simp only at hleast ⊢
  rw [hwrite, kept_ok_bind, settle_eq]
  · exact kept_bind fun cs _ => rfl
  · exact List.length_mapIdx.symm
  · rw [PasswordPolicy.write, List.length_mapIdx, length_fill]
    omega

end Guarded

variable {policies : List PasswordPolicy} {retries : UInt32} {draws : Draws}

/-- Policies that ask for two places or more: whatever is drawn, no list is left while a password is
made for them, and if one is made it is as they ask. -/
theorem generateFor_sound (hmin : 2 ≤ (merge policies).minLength) :
    Guarded.generate (merge policies) retries draws =
        Guarded.kept (generateFor policies retries draws) ∧
      ∀ password, generateFor policies retries draws = .ok password →
        (merge policies).Meets password.toList ∧ (merge policies).complies password := by
  refine ⟨Guarded.generate_eq _ _ _, fun password h => ?_⟩
  have hmeets := meets_of_generate hmin h
  have hcomplies := hmeets.complies
  rw [String.ofList_toList] at hcomplies
  exact ⟨hmeets, hcomplies⟩

/-- Two policies of which one asks for a digit at the end, and the other for a letter in front. -/
def twoEnds : List PasswordPolicy :=
  [{ free with minLength := 3, finish := { Placement.free with mustDigit := true } },
    { free with
      minLength := 2, specialRequired := true, start := { Placement.free with mustAlpha := true }
      forbiddenPrefixes := ["A"] }]

/-- The letter is drawn anew once. -/
theorem generateFor_sound_twoEnds :
    let draws : Draws := ⟨0, 0, fun _ => true, fun _ => 0, fun _ => 1, fun _ => 1⟩
    2 ≤ (merge twoEnds).minLength ∧ generateFor twoEnds 1 draws = .ok "B!0" ∧
      (merge twoEnds).complies "B!0" := by
  intro draws
  have hmin : 2 ≤ (merge twoEnds).minLength := by decide
  have hmade : generateFor twoEnds 1 draws = .ok "B!0" := by rfl
  exact ⟨hmin, hmade, ((generateFor_sound hmin).2 _ hmade).2⟩

end PasswordPolicy

end Provisioning
