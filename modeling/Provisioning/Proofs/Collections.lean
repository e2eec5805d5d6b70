import Mathlib.Tactic.Common
import Provisioning.Attribute.Value

/-!
# Values as collections

Values that hold the same single values equally often are alike. What a list of values comes to when
each is added to those before is decided by their single values alone (`values_foldl_union`), and in
whatever order they come, the results are alike (`foldl_addNew_perm`). NaN is no value's like, so
that it is never left out.
-/

namespace Provisioning

namespace Double

variable {a b c : Double}

theorem same_comm (a b : Double) : a.same b = b.same a := by
  unfold same
  rw [Bool.and_comm (!a.isNaN), Bool.and_comm a.isZero, Bool.beq_comm]

theorem same_trans (hab : a.same b) (hbc : b.same c) : a.same c := by
  simp only [same, Bool.and_eq_true, Bool.or_eq_true, beq_iff_eq] at hab hbc ⊢
  obtain ⟨⟨ha, -⟩, hab⟩ := hab
  obtain ⟨⟨-, hc⟩, hbc⟩ := hbc
  have hzero {x y : Double} (h : x.bits = y.bits) : x.isZero = y.isZero := by
    rw [isZero, magnitude, h, isZero, magnitude]
  refine ⟨⟨ha, hc⟩, ?_⟩
  rcases hab with hab | ⟨hza, hzb⟩
  · rcases hbc with hbc | ⟨hzb, hzc⟩
    · exact .inl (hab.trans hbc)
    · exact .inr ⟨(hzero hab).trans hzb, hzc⟩
  · rcases hbc with hbc | ⟨-, hzc⟩
    · exact .inr ⟨hza, (hzero hbc).symm.trans hzb⟩
    · exact .inr ⟨hza, hzc⟩

end Double

namespace AttributeValue

section Same

mutual

theorem same_comm : ∀ a b : AttributeValue, a.same b = b.same a
  | .null, b => by cases b <;> rfl
  | .string s, b => by cases b <;> first | rfl | exact Bool.beq_comm
  | .integer n, b => by cases b <;> first | rfl | exact Bool.beq_comm
  | .boolean x, b => by cases b <;> first | rfl | exact Bool.beq_comm
  | .float d, b => by cases b <;> first | rfl | exact Double.same_comm _ _
  | .binary bytes, b => by cases b <;> first | rfl | exact Bool.beq_comm
  | .array items, b => by cases b <;> first | rfl | exact sameItems_comm items _

theorem sameItems_comm : ∀ as bs : List AttributeValue, sameItems as bs = sameItems bs as
  | [], [] => rfl
  | [], _ :: _ => rfl
  | _ :: _, [] => rfl
  | a :: as, b :: bs => by rw [sameItems, sameItems, same_comm a b, sameItems_comm as bs]

end

mutual

theorem same_trans : ∀ {a b c : AttributeValue}, a.same b → b.same c → a.same c
  | .null, .null, _, _, hbc => hbc
  | .string s, .string t, _, hab, hbc => by
    obtain rfl : s = t := eq_of_beq hab
    exact hbc
  | .integer m, .integer n, _, hab, hbc => by
    obtain rfl : m = n := eq_of_beq hab
    exact hbc
  | .boolean x, .boolean y, _, hab, hbc => by
    obtain rfl : x = y := eq_of_beq hab
    exact hbc
  | .binary as, .binary bs, _, hab, hbc => by
    obtain rfl : as = bs := eq_of_beq hab
    exact hbc
  | .float x, .float y, .float z, hab, hbc => Double.same_trans (b := y) hab hbc
  | .array as, .array bs, .array cs, hab, hbc => @sameItems_trans as bs cs hab hbc

theorem sameItems_trans : ∀ {as bs cs : List AttributeValue},
    sameItems as bs → sameItems bs cs → sameItems as cs
  | [], [], _, _, hbc => hbc
  | a :: as, b :: bs, c :: cs, hab, hbc => by
    rw [sameItems, Bool.and_eq_true] at hab hbc ⊢
    exact ⟨same_trans hab.1 hbc.1, sameItems_trans hab.2 hbc.2⟩

end

theorem same_congr {a b v : AttributeValue} (h : a.same b) : a.same v = b.same v := by
  have hba : b.same a := same_comm a b ▸ h
  exact Bool.eq_iff_iff.2 ⟨same_trans hba, same_trans h⟩

end Same

/-- Whether a list holds a value. -/
def isAmong (v : AttributeValue) (vs : List AttributeValue) : Bool :=
  vs.any fun x => x.same v

section Add

variable {vs ws : List AttributeValue} {v w x : AttributeValue}

theorem occurrences_cons :
    x.occurrences (v :: vs) = (if v.same x then 1 else 0) + x.occurrences vs := by
  rw [occurrences, List.filter_cons]
  split_ifs
  · exact Nat.add_comm _ _
  · exact (Nat.zero_add _).symm

theorem occurrences_append :
    x.occurrences (vs ++ ws) = x.occurrences vs + x.occurrences ws := by
  rw [occurrences, List.filter_append, List.length_append]
  rfl

theorem addNew_of_isAmong (h : v.isAmong vs = true) : addNew vs v = vs :=
  if_pos h

theorem addNew_of_not_isAmong (h : v.isAmong vs = false) : addNew vs v = vs ++ [v] :=
  if_neg (Bool.eq_false_iff.1 h)

theorem isAmong_concat : v.isAmong (vs ++ [w]) = (v.isAmong vs || w.same v) := by
  simp [isAmong]

theorem isAmong_iff_occurrences : v.isAmong vs ↔ 0 < v.occurrences vs := by
  rw [occurrences, List.length_pos_iff_exists_mem, isAmong, List.any_eq_true]
  simp

end Add

/-- Lists that hold the same values equally often. -/
structure Alike (vs ws : List AttributeValue) : Prop where
  length : vs.length = ws.length
  occurrences : ∀ v : AttributeValue, v.occurrences vs = v.occurrences ws

namespace Alike

variable {us us' vs ws : List AttributeValue} {a b : AttributeValue}

theorem refl (vs : List AttributeValue) : Alike vs vs :=
  ⟨rfl, fun _ => rfl⟩

theorem symm (h : Alike vs ws) : Alike ws vs :=
  ⟨h.length.symm, fun v => (h.occurrences v).symm⟩

theorem trans (h₁ : Alike us vs) (h₂ : Alike vs ws) : Alike us ws :=
  ⟨h₁.length.trans h₂.length, fun v => (h₁.occurrences v).trans (h₂.occurrences v)⟩

theorem of_perm (h : vs.Perm ws) : Alike vs ws :=
  ⟨h.length_eq, fun _ => (h.filter _).length_eq⟩

theorem equivalent (h : Alike a.values b.values) : a.equivalent b := by
  rw [AttributeValue.equivalent, Bool.and_eq_true, beq_iff_eq, List.all_eq_true]
  exact ⟨h.length, fun v _ => beq_iff_eq.2 (h.occurrences v)⟩

theorem isAmong (h : Alike vs ws) (v : AttributeValue) : v.isAmong vs = v.isAmong ws := by
  rw [Bool.eq_iff_iff, isAmong_iff_occurrences, isAmong_iff_occurrences, h.occurrences]

theorem concat (h : Alike vs ws) (v : AttributeValue) : Alike (vs ++ [v]) (ws ++ [v]) := by
  refine ⟨by simp [h.length], fun u => ?_⟩
  rw [occurrences_append, occurrences_append, h.occurrences]

theorem addNew (h : Alike vs ws) (v : AttributeValue) :
    Alike (AttributeValue.addNew vs v) (AttributeValue.addNew ws v) := by
  rcases hv : v.isAmong vs with _ | _
  · rw [addNew_of_not_isAmong hv, addNew_of_not_isAmong (h.isAmong v ▸ hv)]
    exact h.concat v
  · rw [addNew_of_isAmong hv, addNew_of_isAmong (h.isAmong v ▸ hv)]
    exact h

theorem concat_of_same (vs : List AttributeValue) (h : a.same b) :
    Alike (vs ++ [a]) (vs ++ [b]) := by
  refine ⟨by simp, fun v => ?_⟩
  rw [occurrences_append, occurrences_append, occurrences_cons, occurrences_cons, same_congr h]

/-- Of two numbers that are the same with other bits the one that comes first is kept. -/
theorem addNew_swap (vs : List AttributeValue) (a b : AttributeValue) :
    Alike (AttributeValue.addNew (AttributeValue.addNew vs a) b)
      (AttributeValue.addNew (AttributeValue.addNew vs b) a) := by
  rcases ha : a.isAmong vs with _ | _ <;> rcases hb : b.isAmong vs with _ | _
  · rw [addNew_of_not_isAmong ha, addNew_of_not_isAmong hb]
    rcases hab : a.same b with _ | _
    · have hba : b.same a = false := same_comm a b ▸ hab
      rw [addNew_of_not_isAmong (by rw [isAmong_concat, hb, hab]; rfl),
        addNew_of_not_isAmong (by rw [isAmong_concat, ha, hba]; rfl), List.append_assoc,
        List.append_assoc]
      exact of_perm (.append_left vs (.swap b a []))
    · have hba : b.same a := same_comm a b ▸ hab
      rw [addNew_of_isAmong (by rw [isAmong_concat, hab, Bool.or_true]),
        addNew_of_isAmong (by rw [isAmong_concat, hba, Bool.or_true])]
      exact concat_of_same vs hab
  · rw [addNew_of_not_isAmong ha, addNew_of_isAmong hb, addNew_of_not_isAmong ha,
      addNew_of_isAmong (by rw [isAmong_concat, hb, Bool.true_or])]
    exact refl _
  · rw [addNew_of_isAmong ha, addNew_of_not_isAmong hb,
      addNew_of_isAmong (by rw [isAmong_concat, ha, Bool.true_or])]
    exact refl _
  · rw [addNew_of_isAmong ha, addNew_of_isAmong hb, addNew_of_isAmong ha]
    exact refl _

theorem foldl_addNew : ∀ {us vs ws : List AttributeValue}, Alike vs ws →
    Alike (us.foldl AttributeValue.addNew vs) (us.foldl AttributeValue.addNew ws)
  | [], _, _, h => h
  | u :: us, vs, ws, h => by
    rw [List.foldl_cons, List.foldl_cons]
    exact foldl_addNew (h.addNew u)

/-- The order in which values are added does not matter. -/
theorem foldl_addNew_perm (h : us.Perm us') : ∀ {vs : List AttributeValue},
    Alike (us.foldl AttributeValue.addNew vs) (us'.foldl AttributeValue.addNew vs) := by
  induction h with
  | nil => exact refl _
  | cons u _ ih => exact ih
  | swap a b us => exact (addNew_swap _ b a).foldl_addNew
  | trans _ _ ih₁ ih₂ => exact ih₁.trans ih₂

end Alike

/-- The values of a list, each once, where it comes first. -/
def distinct (vs : List AttributeValue) : List AttributeValue :=
  vs.foldl addNew []

section Distinct

variable {vs ws : List AttributeValue}

/-- None of the values is the same as one that comes before it. -/
def Apart (vs : List AttributeValue) : Prop :=
  vs.Pairwise fun x y => x.same y = false

theorem Apart.addNew (h : Apart vs) (v : AttributeValue) : Apart (addNew vs v) := by
  rcases hv : v.isAmong vs with _ | _
  · rw [addNew_of_not_isAmong hv]
    refine List.pairwise_append.2 ⟨h, List.pairwise_singleton _ v, fun x hx y hy => ?_⟩
    obtain rfl := List.mem_singleton.1 hy
    simpa using List.any_eq_false.1 hv x hx
  · rw [addNew_of_isAmong hv]
    exact h

theorem Apart.foldl_addNew : ∀ {vs ws : List AttributeValue}, Apart vs →
    Apart (ws.foldl AttributeValue.addNew vs)
  | _, [], h => h
  | vs, w :: ws, h => by
    rw [List.foldl_cons]
    exact (h.addNew w).foldl_addNew

theorem foldl_addNew_of_apart : ∀ {vs ws : List AttributeValue}, Apart (vs ++ ws) →
    ws.foldl addNew vs = vs ++ ws
  | vs, [], _ => (List.append_nil vs).symm
  | vs, w :: ws, h => by
    have hw : w.isAmong vs = false := by
      refine List.any_eq_false.2 fun x hx => ?_
      rw [(List.pairwise_append.1 h).2.2 x hx w List.mem_cons_self]
      exact Bool.false_ne_true
    rw [List.append_cons] at h ⊢
    rw [List.foldl_cons, addNew_of_not_isAmong hw, foldl_addNew_of_apart h]

theorem distinct_append : distinct (vs ++ ws) = ws.foldl addNew (distinct vs) :=
  List.foldl_append

/-- What was made distinct may be taken for what it was made of. -/
theorem distinct_distinct_append : distinct (distinct vs ++ ws) = distinct (vs ++ ws) := by
  have happart : Apart (distinct vs) := Apart.foldl_addNew List.Pairwise.nil
  have hself : distinct (distinct vs) = distinct vs := foldl_addNew_of_apart happart
  rw [distinct_append, hself, distinct_append]

theorem mem_of_mem_foldl_addNew {v : AttributeValue} : ∀ {vs ws : List AttributeValue},
    v ∈ ws.foldl addNew vs → v ∈ vs ∨ v ∈ ws
  | _, [], h => .inl h
  | vs, w :: ws, h => by
    rw [List.foldl_cons] at h
    rcases mem_of_mem_foldl_addNew h with hv | hv
    · rcases hw : w.isAmong vs with _ | _
      · rw [addNew_of_not_isAmong hw, List.mem_append, List.mem_singleton] at hv
        exact hv.imp_right fun he : v = w => he ▸ List.mem_cons_self
      · rw [addNew_of_isAmong hw] at hv
        exact .inl hv
    · exact .inr (List.mem_cons_of_mem w hv)

theorem mem_of_mem_distinct {v : AttributeValue} (h : v ∈ distinct vs) : v ∈ vs :=
  (mem_of_mem_foldl_addNew h).resolve_left List.not_mem_nil

end Distinct

section Values

/-- Whether a value is neither null nor an array. -/
def isSingle : AttributeValue → Bool
  | .null => false
  | .array _ => false
  | _ => true

mutual

theorem isSingle_of_mem_values : ∀ {v x : AttributeValue}, x ∈ v.values → x.isSingle
  | .null, _, h => absurd h List.not_mem_nil
  | .array _, _, h => isSingle_of_mem_valuesOf h
  | .string _, _, h => List.mem_singleton.1 h ▸ rfl
  | .integer _, _, h => List.mem_singleton.1 h ▸ rfl
  | .boolean _, _, h => List.mem_singleton.1 h ▸ rfl
  | .float _, _, h => List.mem_singleton.1 h ▸ rfl
  | .binary _, _, h => List.mem_singleton.1 h ▸ rfl

theorem isSingle_of_mem_valuesOf : ∀ {vs : List AttributeValue} {x : AttributeValue},
    x ∈ valuesOf vs → x.isSingle
  | v :: vs, x, h => by
    rw [valuesOf, List.mem_append] at h
    exact h.elim isSingle_of_mem_values isSingle_of_mem_valuesOf

end

/-- A single value is its own only single value. -/
theorem values_of_isSingle {v : AttributeValue} (h : v.isSingle) : v.values = [v] := by
  cases v <;> first | rfl | cases h

theorem valuesOf_of_single : ∀ {vs : List AttributeValue}, (∀ x ∈ vs, x.isSingle) →
    valuesOf vs = vs
  | [], _ => rfl
  | v :: vs, h => by
    rw [valuesOf, values_of_isSingle (h v List.mem_cons_self),
      valuesOf_of_single fun x hx => h x (List.mem_cons_of_mem v hx)]
    rfl

theorem values_union (a b : AttributeValue) :
    (a.union b).values = distinct (a.values ++ b.values) := by
  rw [union, values]
  refine valuesOf_of_single fun x hx => ?_
  exact (List.mem_append.1 (mem_of_mem_distinct hx)).elim isSingle_of_mem_values
    isSingle_of_mem_values

/-- What values come to when each is added to those before. -/
theorem values_foldl_union : ∀ {v w : AttributeValue} {vs : List AttributeValue},
    ((w :: vs).foldl union v).values = distinct (v.values ++ (w :: vs).flatMap values)
  | v, w, [] => by simpa using values_union v w
  | v, w, x :: vs => by
    rw [List.foldl_cons, values_foldl_union, values_union, distinct_distinct_append,
      List.append_assoc]
    rfl

/-- What several values come to under one name. -/
def shared : List AttributeValue → Option AttributeValue
  | [] => none
  | v :: vs => some (vs.foldl union v)

/-- The order in which values come under one name does not matter. -/
theorem shared_perm : ∀ {vs ws : List AttributeValue}, vs.Perm ws →
    Option.Rel (fun v w => Alike v.values w.values) (shared vs) (shared ws)
  | [], ws, h => by
    obtain rfl := List.nil_perm.1 h
    exact .none
  | [v], ws, h => by
    obtain rfl := List.singleton_perm.1 h
    exact .some (.refl _)
  | v :: w :: vs, ws, h => by
    obtain ⟨v', w', vs', rfl⟩ : ∃ v' w' vs', ws = v' :: w' :: vs' := by
      rcases ws with _ | ⟨v', _ | ⟨w', vs'⟩⟩
      · exact absurd h.length_eq (by simp)
      · exact absurd h.length_eq (by simp)
      · exact ⟨v', w', vs', rfl⟩
    refine .some ?_
    rw [values_foldl_union, values_foldl_union]
    exact Alike.foldl_addNew_perm (h.flatMap_right values)

end Values

end AttributeValue

end Provisioning
