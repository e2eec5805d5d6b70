import Mathlib.Data.List.Induction
import Provisioning.Proofs.Comparisons
import Provisioning.Proofs.MappingOrder

/-!
# The laws of unions

The union of two values is the array of their single values at the places where these come first
(`distinct_eq_firsts`), so that it holds what either holds, and nothing twice. What is dropped from
the second value early or late makes no difference (`distinct_append_distinct`), which gives
associativity. A list without NaN in which nothing stands twice is given, up to order and sameness,
by what is among its values (`alike_of_apart`). So what two or more values without NaN come to under
one name depends only on which single values there are among them (`mergeAll_alike`).
-/

namespace Provisioning

namespace AttributeValue

variable {a b v w x : AttributeValue} {vs ws : List AttributeValue}

section Among

theorem isAmong_append : v.isAmong (vs ++ ws) = (v.isAmong vs || v.isAmong ws) :=
  List.any_append

theorem isAmong_of_mem (hv : v.isSelfSame) (h : v ∈ vs) : v.isAmong vs :=
  List.any_eq_true.2 ⟨v, h, hv⟩

theorem isAmong_addNew : v.isAmong (addNew vs w) = (v.isAmong vs || w.same v) := by
  rcases hw : w.isAmong vs with _ | _
  · rw [addNew_of_not_isAmong hw, isAmong_concat]
  · rw [addNew_of_isAmong hw]
    rcases hwv : w.same v with _ | _
    · exact (Bool.or_false _).symm
    · obtain ⟨y, hy, hyw⟩ := List.any_eq_true.1 hw
      have hv : v.isAmong vs := List.any_eq_true.2 ⟨y, hy, same_trans hyw hwv⟩
      rw [hv]
      rfl

theorem isAmong_foldl_addNew : ∀ {vs ws : List AttributeValue},
    v.isAmong (ws.foldl addNew vs) = (v.isAmong vs || v.isAmong ws)
  | _, [] => (Bool.or_false _).symm
  | vs, w :: ws => by
    rw [List.foldl_cons, isAmong_foldl_addNew, isAmong_addNew, Bool.or_assoc]
    rfl

theorem isAmong_distinct : v.isAmong (distinct vs) = v.isAmong vs :=
  isAmong_foldl_addNew

theorem foldl_addNew_of_isAmong : ∀ {vs ws : List AttributeValue}, (∀ v ∈ ws, v.isAmong vs) →
    ws.foldl addNew vs = vs
  | _, [], _ => rfl
  | vs, w :: ws, h => by
    obtain ⟨hw, hws⟩ := List.forall_mem_cons.1 h
    rw [List.foldl_cons, addNew_of_isAmong hw, foldl_addNew_of_isAmong hws]

end Among

section Firsts

/-- The values at the places before which no value is the same. -/
def firsts (vs : List AttributeValue) : List AttributeValue :=
  (vs.zipIdx.filter fun place => !place.1.isAmong (vs.take place.2)).map Prod.fst

theorem distinct_concat : distinct (vs ++ [v]) = addNew (distinct vs) v :=
  distinct_append

theorem firsts_concat :
    firsts (vs ++ [v]) = if v.isAmong vs then firsts vs else firsts vs ++ [v] := by
  have hearlier : (vs.zipIdx.filter fun place => !place.1.isAmong ((vs ++ [v]).take place.2)) =
      vs.zipIdx.filter fun place => !place.1.isAmong (vs.take place.2) := by
    refine List.filter_congr fun place hplace => ?_
    have hlt : place.2 < vs.length := by simpa using List.snd_lt_of_mem_zipIdx hplace
    rw [List.take_append_of_le_length (Nat.le_of_lt hlt)]
  rw [firsts, List.zipIdx_append, List.filter_append, hearlier, List.map_append, ← firsts]
  rcases hv : v.isAmong vs with _ | _ <;> simp [hv]

theorem distinct_eq_firsts (vs : List AttributeValue) : distinct vs = firsts vs := by
  induction vs using List.reverseRecOn with
  | nil => rfl
  | append_singleton vs v ih =>
    rw [distinct_concat, firsts_concat, ← ih]
    rcases hv : v.isAmong vs with _ | _
    · exact addNew_of_not_isAmong (isAmong_distinct.trans hv)
    · exact addNew_of_isAmong (isAmong_distinct.trans hv)

/-- What comes last may be made distinct before it comes. -/
theorem distinct_append_distinct (us vs : List AttributeValue) :
    distinct (us ++ distinct vs) = distinct (us ++ vs) := by
  induction vs using List.reverseRecOn with
  | nil => rfl
  | append_singleton vs v ih =>
    rw [distinct_concat, ← List.append_assoc, distinct_concat, ← ih]
    rcases hv : v.isAmong vs with _ | _
    · rw [addNew_of_not_isAmong (isAmong_distinct.trans hv), ← List.append_assoc, distinct_concat]
    · rw [addNew_of_isAmong (isAmong_distinct.trans hv), addNew_of_isAmong]
      rw [isAmong_distinct, isAmong_append, isAmong_distinct, hv, Bool.or_true]

theorem apart_distinct : Apart (distinct vs) :=
  Apart.foldl_addNew List.Pairwise.nil

end Firsts

section Alike

theorem isSelfSame_of_mem_values (hv : v.nans = 0) (h : x ∈ v.values) : x.isSelfSame := by
  rw [isSelfSame_of_isSingle (isSingle_of_mem_values h)]
  simpa using List.countP_eq_zero.1 hv x h

/-- Where nothing stands twice a value occurs once or not at all. -/
theorem occurrences_of_apart : ∀ {vs : List AttributeValue}, Apart vs →
    x.occurrences vs = if x.isAmong vs then 1 else 0
  | [], _ => rfl
  | v :: vs, h => by
    obtain ⟨hv, hvs⟩ := List.pairwise_cons.1 h
    have hamong : x.isAmong (v :: vs) = (v.same x || x.isAmong vs) := List.any_cons
    rw [occurrences_cons, occurrences_of_apart hvs, hamong]
    rcases hvx : v.same x with _ | _
    · simp
    · have hnone : x.isAmong vs = false := by
        refine List.any_eq_false.2 fun w hw => ?_
        rw [same_comm, ← same_congr hvx, hv w hw]
        exact Bool.false_ne_true
      simp [hnone]

theorem length_le_of_occurrences (hvs : ∀ v ∈ vs, v.isSelfSame)
    (h : ∀ x : AttributeValue, x.occurrences vs = x.occurrences ws) : vs.length ≤ ws.length := by
  obtain ⟨matched, rest, hperm, hmatched⟩ := exists_matched fun x _ => Nat.le_of_eq (h x)
  rw [List.filter_eq_self.2 hvs] at hmatched
  rw [hperm.length_eq, List.length_append, hmatched.length_eq]
  exact Nat.le_add_right _ _

/-- Without NaN and repetitions lists are alike if the same values are among them. -/
theorem alike_of_apart (hvs : Apart vs) (hws : Apart ws) (hself : ∀ v ∈ vs, v.isSelfSame)
    (hself' : ∀ w ∈ ws, w.isSelfSame)
    (h : ∀ x : AttributeValue, x.isAmong vs = x.isAmong ws) : Alike vs ws := by
  have hcounts (x : AttributeValue) : x.occurrences vs = x.occurrences ws := by
    rw [occurrences_of_apart hvs, occurrences_of_apart hws, h]
  refine ⟨Nat.le_antisymm ?_ ?_, hcounts⟩
  · exact length_le_of_occurrences hself hcounts
  · exact length_le_of_occurrences hself' fun x => (hcounts x).symm

theorem alike_distinct (hself : ∀ v ∈ vs, v.isSelfSame) (hself' : ∀ w ∈ ws, w.isSelfSame)
    (h : ∀ x : AttributeValue, x.isAmong vs = x.isAmong ws) :
    Alike (distinct vs) (distinct ws) := by
  refine alike_of_apart apart_distinct apart_distinct (fun v hv => hself v (mem_of_mem_distinct hv))
    (fun w hw => hself' w (mem_of_mem_distinct hw)) fun x => ?_
  rw [isAmong_distinct, isAmong_distinct, h]

end Alike

section Union

theorem union_eq (a b : AttributeValue) : a.union b = .array (firsts (a.values ++ b.values)) :=
  congrArg array (distinct_eq_firsts _)

theorem isAmong_union :
    v.isAmong (a.union b).values = (v.isAmong a.values || v.isAmong b.values) := by
  rw [values_union, isAmong_distinct, isAmong_append]

theorem union_assoc (a b c : AttributeValue) : (a.union b).union c = a.union (b.union c) := by
  refine congrArg array ?_
  show distinct _ = distinct _
  rw [values_union, values_union, distinct_distinct_append, distinct_append_distinct,
    List.append_assoc]

/-- What is there already adds nothing, but for NaN, which is never there. -/
theorem union_union_self (hb : b.nans = 0) : (a.union b).union b = a.union b := by
  refine congrArg array ?_
  show distinct _ = distinct _
  rw [values_union, distinct_distinct_append, distinct_append, foldl_addNew_of_isAmong]
  intro v hv
  rw [isAmong_distinct, isAmong_append,
    isAmong_of_mem (isSelfSame_of_mem_values hb hv) hv, Bool.or_true]

theorem union_comm_equivalent (a b : AttributeValue) : (a.union b).equivalent (b.union a) := by
  refine Alike.equivalent ?_
  rw [values_union, values_union]
  exact Alike.foldl_addNew_perm List.perm_append_comm

theorem values_array_firsts (vs : List AttributeValue) :
    (array (firsts (vs.flatMap values))).values = firsts (vs.flatMap values) := by
  rw [← distinct_eq_firsts]
  refine valuesOf_of_single fun x hx => ?_
  obtain ⟨v, -, hv⟩ := List.mem_flatMap.1 (mem_of_mem_distinct hx)
  exact isSingle_of_mem_values hv

/-- What two or more values come to under one name. -/
theorem foldl_union : ∀ {v w : AttributeValue} {vs : List AttributeValue},
    (w :: vs).foldl union v = .array (firsts (v.values ++ (w :: vs).flatMap values))
  | v, w, [] => by simpa using union_eq v w
  | v, w, x :: vs => by
    rw [List.foldl_cons, foldl_union, values_union, ← distinct_eq_firsts, distinct_distinct_append,
      distinct_eq_firsts, List.append_assoc]
    rfl

theorem shared_of_two (h : 2 ≤ vs.length) :
    shared vs = some (.array (firsts (vs.flatMap values))) := by
  match vs, h with
  | v :: w :: vs, _ => exact congrArg some foldl_union

end Union

end AttributeValue

namespace AttributeSet

open AttributeValue

variable {s : AttributeSet} {name x : String} {vs ws : List AttributeValue}

/-- Merges values into those under a name, one after the other. -/
def mergeAll (s : AttributeSet) (name : String) (vs : List AttributeValue) : AttributeSet :=
  vs.foldl (fun all v => all.merge name v) s

theorem mergeAll_cons {v : AttributeValue} :
    s.mergeAll name (v :: vs) = (s.merge name v).mergeAll name vs :=
  rfl

/-- What is there before counts as the first of the values. -/
theorem get?_mergeAll : ∀ {vs : List AttributeValue} {s : AttributeSet},
    (s.mergeAll name vs).get? name = shared ((s.get? name).toList ++ vs)
  | [], s => by rcases h : s.get? name with _ | there <;> simpa [mergeAll, shared] using h
  | v :: vs, s => by
    rw [mergeAll_cons, get?_mergeAll, get?_merge, if_pos rfl]
    rcases s.get? name with _ | there <;> rfl

theorem get?_mergeAll_of_ne (hx : x ≠ name) : ∀ {vs : List AttributeValue} {s : AttributeSet},
    (s.mergeAll name vs).get? x = s.get? x
  | [], _ => rfl
  | v :: vs, s => by rw [mergeAll_cons, get?_mergeAll_of_ne hx, get?_merge, if_neg hx]

/-- The order in which values are merged does not matter, whatever they are. -/
theorem mergeAll_perm (h : vs.Perm ws) (x : String) :
    Option.Rel (fun v w => v.equivalent w = true) ((s.mergeAll name vs).get? x)
      ((s.mergeAll name ws).get? x) := by
  by_cases hx : x = name
  · subst hx
    rw [get?_mergeAll, get?_mergeAll]
    have hshared := shared_perm (h.append_left (s.get? x).toList)
    generalize shared ((s.get? x).toList ++ vs) = v, shared ((s.get? x).toList ++ ws) = w at hshared
    rcases hshared with hlike | _
    · exact .some hlike.equivalent
    · exact .none
  · rw [get?_mergeAll_of_ne hx, get?_mergeAll_of_ne hx]
    rcases s.get? x with _ | v
    · exact .none
    · exact .some (equivalent_refl v)

/-- What two or more values come to under a name depends on the single values among them alone. -/
theorem mergeAll_alike (hvs : 2 ≤ vs.length) (hws : 2 ≤ ws.length)
    (hfree : ∀ v ∈ (s.get? name).toList ++ vs ++ ws, v.nans = 0)
    (h : ∀ x : AttributeValue, x.isAmong (vs.flatMap values) = x.isAmong (ws.flatMap values)) :
    ∃ v w, (s.mergeAll name vs).get? name = some v ∧ (s.mergeAll name ws).get? name = some w ∧
      v.equivalent w := by
  have hself {us : List AttributeValue} (hsub : us ⊆ (s.get? name).toList ++ vs ++ ws) :
      ∀ x ∈ us.flatMap values, x.isSelfSame := by
    intro x hx
    obtain ⟨v, hv, hxv⟩ := List.mem_flatMap.1 hx
    exact isSelfSame_of_mem_values (hfree v (hsub hv)) hxv
  refine ⟨_, _, get?_mergeAll.trans (shared_of_two ?_), get?_mergeAll.trans (shared_of_two ?_), ?_⟩
  · exact List.length_append ▸ Nat.le_add_left_of_le hvs
  · exact List.length_append ▸ Nat.le_add_left_of_le hws
  · refine Alike.equivalent ?_
    rw [values_array_firsts, values_array_firsts, ← distinct_eq_firsts, ← distinct_eq_firsts]
    refine alike_distinct (hself ?_) (hself ?_) fun x => ?_
    · exact List.subset_append_left _ _
    · exact List.append_subset.2 ⟨fun v hv => by simp [hv], List.subset_append_right _ _⟩
    · rw [List.flatMap_append, List.flatMap_append, isAmong_append, isAmong_append, h]

end AttributeSet

namespace AttributeValue

/-- A union holds what either value holds, nothing twice, in the order in which it comes first. It
is associative, a value that was taken in adds nothing, and its order does not matter to the
collection. So what is merged into the attributes of a name comes to the same collection in every
order, and if there are two or more values, for all values among which there are the same single
ones. That nothing is NaN is asked for where a value is to be found again. -/
theorem union_laws (a : AttributeValue) {b : AttributeValue} (hb : b.nans = 0)
    (c : AttributeValue) :
    (Apart (a.union b).values ∧ a.union b = .array (firsts (a.values ++ b.values)) ∧
        ∀ v : AttributeValue,
          v.isAmong (a.union b).values = (v.isAmong a.values || v.isAmong b.values)) ∧
      (a.union b).union c = a.union (b.union c) ∧
      (a.union b).union b = a.union b ∧
      (a.union b).equivalent (b.union a) ∧
      ∀ (s : AttributeSet) (name : String) (vs ws : List AttributeValue),
        (vs.Perm ws → ∀ x, Option.Rel (fun v w => v.equivalent w = true)
          ((s.mergeAll name vs).get? x) ((s.mergeAll name ws).get? x)) ∧
        (2 ≤ vs.length → 2 ≤ ws.length →
          (∀ v ∈ (s.get? name).toList ++ vs ++ ws, v.nans = 0) →
          (∀ x : AttributeValue,
            x.isAmong (vs.flatMap values) = x.isAmong (ws.flatMap values)) →
          ∃ v w, (s.mergeAll name vs).get? name = some v ∧
            (s.mergeAll name ws).get? name = some w ∧ v.equivalent w) := by
  refine ⟨⟨?_, union_eq a b, fun v => isAmong_union⟩, union_assoc a b c, union_union_self hb,
    union_comm_equivalent a b, fun s name vs ws => ⟨AttributeSet.mergeAll_perm, ?_⟩⟩
  · rw [values_union]
    exact apart_distinct
  · exact AttributeSet.mergeAll_alike

/-- Zeros of both signs are one value, of which the first is kept, and an array that holds a text
twice is as good as the text once something else is merged with it. -/
theorem union_laws_zeros :
    let zero := float ⟨0⟩
    let minusZero := float ⟨0x8000000000000000⟩
    let zeroAndText := array [zero, .string "x"]
    let vs := [array [.string "x", .string "x"], zero]
    let ws := [minusZero, .string "x", .null]
    minusZero.union zeroAndText = .array [minusZero, .string "x"] ∧
      (minusZero.union zeroAndText).union zeroAndText = minusZero.union zeroAndText ∧
      ∃ v w, (AttributeSet.empty.mergeAll "groups" vs).get? "groups" = some v ∧
        (AttributeSet.empty.mergeAll "groups" ws).get? "groups" = some w ∧ v.equivalent w := by
  intro zero minusZero zeroAndText vs ws
  obtain ⟨⟨-, hfirsts, -⟩, -, hself, -, hmerge⟩ :=
    @union_laws minusZero zeroAndText (by decide) .null
  refine ⟨hfirsts.trans rfl, hself, (hmerge .empty "groups" vs ws).2 (by decide) (by decide)
    (by decide) fun x => ?_⟩
  have hzero : zero.same x = minusZero.same x :=
    same_congr (show zero.same minusZero = true by decide)
  show ((string "x").same x || ((string "x").same x || (zero.same x || false))) =
    (minusZero.same x || ((string "x").same x || false))
  rw [hzero]
  rcases (string "x").same x <;> rcases minusZero.same x <;> rfl

end AttributeValue

end Provisioning
