import Mathlib.Data.List.Forall2
import Provisioning.Proofs.Patches

/-!
# What a comparison overlooks

Two values are equivalent if they are of one length and every single value of the first occurs as
often in the second. As NaN is the same as nothing, it asks for nothing, and the place it takes is
filled by any value that the first one does not have (`equivalent_iff`). So a change that a set
wants of another one is overlooked exactly where the other one holds more NaNs (`left_out_iff`).
Which of two values comes first matters exactly then, too.
-/

namespace Provisioning

namespace AttributeValue

variable {a b v w x : AttributeValue} {vs ws : List AttributeValue}

section Occurrences

/-- Whether a value is the same as itself. -/
def isSelfSame (v : AttributeValue) : Bool :=
  v.same v

theorem isSelfSame_of_same (h : v.same w) : v.isSelfSame :=
  same_trans h (same_comm v w ▸ h)

theorem occurrences_eq_zero_iff : x.occurrences vs = 0 ↔ ∀ v ∈ vs, v.same x = false := by
  simp [occurrences]

/-- What is the same occurs equally often. -/
theorem occurrences_of_forall₂ (h : List.Forall₂ (fun v w => v.same w = true) vs ws) :
    x.occurrences vs = x.occurrences ws := by
  induction h with
  | nil => rfl
  | cons hvw _ ih => rw [occurrences_cons, occurrences_cons, ih, same_congr hvw]

theorem isSelfSame_of_forall₂ (h : List.Forall₂ (fun v w => v.same w = true) vs ws) :
    ∀ w ∈ ws, w.isSelfSame := by
  induction h with
  | nil => exact fun w hw => absurd hw List.not_mem_nil
  | @cons v w _ _ hvw _ ih =>
    exact List.forall_mem_cons.2 ⟨isSelfSame_of_same (same_comm v w ▸ hvw), ih⟩

/-- What is not the same as itself does not count. -/
theorem occurrences_filter_isSelfSame (vs : List AttributeValue) :
    x.occurrences (vs.filter isSelfSame) = x.occurrences vs := by
  rw [occurrences, occurrences, List.filter_filter]
  congr 1
  refine List.filter_congr fun v _ => ?_
  rw [Bool.and_eq_left_iff_imp]
  exact isSelfSame_of_same

theorem exists_perm_cons (h : 0 < v.occurrences ws) :
    ∃ w rest, v.same w ∧ ws.Perm (w :: rest) := by
  obtain ⟨w, hw, hwv⟩ := List.any_eq_true.1 (isAmong_iff_occurrences.2 h)
  obtain ⟨before, after, rfl⟩ := List.append_of_mem hw
  exact ⟨w, before ++ after, same_comm w v ▸ hwv, List.perm_middle⟩

/-- A list in which the values of another one occur often enough is made up of the same values, one
for each of these that is the same as itself, and of others. -/
theorem exists_matched : ∀ {vs ws : List AttributeValue},
    (∀ x ∈ vs, x.occurrences vs ≤ x.occurrences ws) →
      ∃ matched rest, ws.Perm (matched ++ rest) ∧
        List.Forall₂ (fun v w => v.same w = true) (vs.filter isSelfSame) matched
  | [], ws, _ => ⟨[], ws, .refl _, .nil⟩
  | v :: vs, ws, h => by
    by_cases hv : v.isSelfSame
    · have hpos : 0 < v.occurrences ws := by
        refine Nat.lt_of_lt_of_le ?_ (h v List.mem_cons_self)
        rw [occurrences_cons, if_pos (show v.same v = true from hv)]
        omega
      obtain ⟨w, others, hvw, hperm⟩ := exists_perm_cons hpos
      -- What `v` counts for among the first values `w` counts for among the second.
      have hothers : ∀ x ∈ vs, x.occurrences vs ≤ x.occurrences others := by
        intro x hx
        have hle := h x (List.mem_cons_of_mem v hx)
        rw [(Alike.of_perm hperm).occurrences, occurrences_cons, occurrences_cons,
          same_congr hvw] at hle
        omega
      obtain ⟨matched, rest, hrest, hmatched⟩ := exists_matched hothers
      refine ⟨w :: matched, rest, hperm.trans (hrest.cons w), ?_⟩
      rw [List.filter_cons_of_pos hv]
      exact .cons hvw hmatched
    · rw [List.filter_cons_of_neg hv]
      refine exists_matched fun x hx => ?_
      have hle := h x (List.mem_cons_of_mem v hx)
      rw [occurrences_cons] at hle
      omega

theorem occurrences_of_matched {matched rest : List AttributeValue}
    (hperm : ws.Perm (matched ++ rest))
    (hmatched : List.Forall₂ (fun v w => v.same w = true) (vs.filter isSelfSame) matched) :
    x.occurrences ws = x.occurrences vs + x.occurrences rest := by
  rw [(Alike.of_perm hperm).occurrences, occurrences_append, ← occurrences_of_forall₂ hmatched,
    occurrences_filter_isSelfSame]

end Occurrences

section NaN

def isNaN : AttributeValue → Bool
  | .float d => d.isNaN
  | _ => false

/-- How often NaN stands among the single values of a value. -/
def nans (v : AttributeValue) : Nat :=
  v.values.countP isNaN

theorem isSelfSame_of_isSingle (h : v.isSingle) : v.isSelfSame = !v.isNaN := by
  cases v with
  | null => cases h
  | array items => cases h
  | float d => simp [isSelfSame, same, isNaN, Double.same]
  | string s => exact beq_self_eq_true s
  | integer n => exact beq_self_eq_true n
  | boolean b => exact beq_self_eq_true b
  | binary bytes => exact beq_self_eq_true bytes

theorem filter_isSelfSame (v : AttributeValue) :
    v.values.filter isSelfSame = v.values.filter fun x => !x.isNaN :=
  List.filter_congr fun _ hx => isSelfSame_of_isSingle (isSingle_of_mem_values hx)

theorem length_filter_add_nans (v : AttributeValue) :
    (v.values.filter fun x => !x.isNaN).length + v.nans = v.values.length := by
  rw [nans, ← List.countP_eq_length_filter, Nat.add_comm, List.length_eq_countP_add_countP isNaN]
  simp

end NaN

/-- The single values of `b` are those of `a`, but for those that stand in the place of a NaN of
`a`. These may be any that `a` does not have. -/
def Covers (a b : AttributeValue) : Prop :=
  ∃ matched rest, b.values.Perm (matched ++ rest) ∧
    List.Forall₂ (fun v w => v.same w = true) (a.values.filter fun v => !v.isNaN) matched ∧
    rest.length = a.nans ∧ ∀ x ∈ rest, x.isAmong a.values = false

theorem equivalent_iff_occurrences : a.equivalent b ↔ a.values.length = b.values.length ∧
    ∀ x ∈ a.values, x.occurrences a.values = x.occurrences b.values := by
  simp [equivalent]

namespace Covers

theorem length_eq (h : a.Covers b) : a.values.length = b.values.length := by
  obtain ⟨matched, rest, hperm, hmatched, hlength, -⟩ := h
  rw [hperm.length_eq, List.length_append, ← hmatched.length_eq, hlength, length_filter_add_nans]

/-- What a value covers has its values and those in the place of a NaN. -/
theorem exists_rest (h : a.Covers b) : ∃ rest, rest ⊆ b.values ∧ rest.length = a.nans ∧
    b.nans = rest.countP isNaN ∧ (∀ x ∈ rest, x.isAmong a.values = false) ∧
    ∀ x : AttributeValue,
      x.occurrences b.values = x.occurrences a.values + x.occurrences rest := by
  obtain ⟨matched, rest, hperm, hmatched, hlength, hrest⟩ := h
  refine ⟨rest, fun x hx => hperm.mem_iff.2 (List.mem_append_right _ hx), hlength, ?_, hrest, ?_⟩
  · have hnone : matched.countP isNaN = 0 := by
      refine List.countP_eq_zero.2 fun w hw => ?_
      have hsingle := isSingle_of_mem_values (hperm.mem_iff.2 (List.mem_append_left rest hw))
      have hself := isSelfSame_of_forall₂ hmatched w hw
      rw [isSelfSame_of_isSingle hsingle, Bool.not_eq_true'] at hself
      simp [hself]
    rw [nans, hperm.countP_eq, List.countP_append, hnone, Nat.zero_add]
  · rw [← filter_isSelfSame] at hmatched
    exact fun x => occurrences_of_matched hperm hmatched

theorem nans_le (h : a.Covers b) : b.nans ≤ a.nans := by
  obtain ⟨rest, -, hlength, hnans, -⟩ := h.exists_rest
  rw [hnans, ← hlength]
  exact List.countP_le_length

/-- Nothing stands in the place of a NaN but NaN if there are as many of them. -/
theorem alike (h : a.Covers b) (hn : b.nans = a.nans) : Alike a.values b.values := by
  obtain ⟨rest, hsub, hlength, hnans, -, hcounts⟩ := h.exists_rest
  refine ⟨h.length_eq, fun x => ?_⟩
  have hall : ∀ y ∈ rest, y.isNaN := List.countP_eq_length.1 (by rw [← hnans, hn, hlength])
  have hzero : x.occurrences rest = 0 := by
    refine occurrences_eq_zero_iff.2 fun y hy => Bool.eq_false_iff.2 fun hyx => ?_
    have hself := isSelfSame_of_same hyx
    rw [isSelfSame_of_isSingle (isSingle_of_mem_values (hsub hy)), hall y hy] at hself
    cases hself
  rw [hcounts, hzero, Nat.add_zero]

theorem nans_eq (h : a.Covers b)
    (hb : ∀ x ∈ b.values, x.occurrences a.values = x.occurrences b.values) : b.nans = a.nans := by
  obtain ⟨rest, hsub, hlength, hnans, -, hcounts⟩ := h.exists_rest
  rw [hnans, ← hlength]
  refine List.countP_eq_length.2 fun x hx => ?_
  have hx' := hb x (hsub hx)
  rw [hcounts, Nat.left_eq_add, occurrences_eq_zero_iff] at hx'
  have hself : x.isSelfSame = false := hx' x hx
  rwa [isSelfSame_of_isSingle (isSingle_of_mem_values (hsub hx)), Bool.not_eq_false'] at hself

end Covers

/-- A value is equivalent to those that it covers. -/
theorem equivalent_iff : a.equivalent b ↔ a.Covers b := by
  rw [equivalent_iff_occurrences]
  constructor
  · rintro ⟨hlength, hcounts⟩
    obtain ⟨matched, rest, hperm, hmatched⟩ :=
      exists_matched fun x hx => Nat.le_of_eq (hcounts x hx)
    have hmatched' := hmatched
    rw [filter_isSelfSame] at hmatched'
    refine ⟨matched, rest, hperm, hmatched', ?_, fun x hx => Bool.eq_false_iff.2 fun hamong => ?_⟩
    · have hb := hperm.length_eq
      rw [List.length_append, ← hmatched'.length_eq, ← hlength, ← length_filter_add_nans] at hb
      omega
    · -- The matched values have taken up all that the first one has.
      obtain ⟨v, hv, hvx⟩ := List.any_eq_true.1 hamong
      have hcount := hcounts v hv
      rw [occurrences_of_matched hperm hmatched, Nat.left_eq_add, occurrences_eq_zero_iff] at hcount
      rw [same_comm, hcount x hx] at hvx
      cases hvx
  · intro h
    obtain ⟨rest, -, -, -, hrest, hcounts⟩ := h.exists_rest
    refine ⟨h.length_eq, fun v hv => ?_⟩
    have hzero : v.occurrences rest = 0 := by
      refine occurrences_eq_zero_iff.2 fun x hx => ?_
      rw [same_comm]
      simpa using List.any_eq_false.1 (hrest x hx) v hv
    rw [hcounts, hzero, Nat.add_zero]

/-- Of two values that are equivalent one way all are there as often exactly if NaN is. -/
theorem forall_occurrences_iff (h : a.equivalent b) :
    (∀ x ∈ a.values ++ b.values, x.occurrences a.values = x.occurrences b.values) ↔
      b.nans = a.nans := by
  have hc := equivalent_iff.1 h
  constructor
  · exact fun hall => hc.nans_eq fun x hx => hall x (List.mem_append_right _ hx)
  · exact fun hn x _ => (hc.alike hn).occurrences x

/-- Two values that are equivalent one way are so the other way exactly if NaN is there as often. -/
theorem equivalent_comm_iff (h : a.equivalent b) : b.equivalent a ↔ b.nans = a.nans := by
  have hc := equivalent_iff.1 h
  constructor
  · intro hba
    exact hc.nans_eq fun x hx => ((equivalent_iff_occurrences.1 hba).2 x hx).symm
  · exact fun hn => (hc.alike hn).symm.equivalent

end AttributeValue

namespace AttributeSet

open AttributeValue

variable {wanted current : AttributeSet} {name : String} {v : AttributeValue}

/-- An attribute is left out of a difference exactly if the other set has a value for it that covers
the one that is wanted. No change is lost by this exactly if NaN is there as often in both. -/
theorem left_out_iff (hv : wanted.get? name = some v) :
    ((wanted.difference current).has name = false ↔
      ∃ there, current.get? name = some there ∧ there.Covers v) ∧
    ∀ there, current.get? name = some there → there.Covers v →
      v.nans ≤ there.nans ∧
      ((∀ x ∈ there.values ++ v.values, x.occurrences there.values = x.occurrences v.values) ↔
        v.nans = there.nans) ∧
      (v.equivalent there ↔ v.nans = there.nans) := by
  refine ⟨?_, fun there hthere hc => ?_⟩
  · rw [has_difference hv, Bool.not_eq_false', holds]
    rcases current.get? name with _ | there
    · simp
    · simp [← equivalent_iff]
  · have h := equivalent_iff.2 hc
    exact ⟨hc.nans_le, forall_occurrences_iff h, equivalent_comm_iff h⟩

theorem left_out_iff_replaced :
    let wanted := ofList [("score", .array [.string "low", .string "high"])]
    let current := ofList [("score", .array [notANumber, .string "low"])]
    wanted.get? "score" = some (.array [.string "low", .string "high"]) ∧
      (wanted.difference current).has "score" = false ∧
      ¬(AttributeValue.array [.string "low", .string "high"]).equivalent
        (.array [notANumber, .string "low"]) := by
  intro wanted current
  have hv : wanted.get? "score" = some (.array [.string "low", .string "high"]) := rfl
  obtain ⟨hiff, heach⟩ := @left_out_iff wanted current _ _ hv
  have hd : (wanted.difference current).has "score" = false := by decide
  obtain ⟨there, hthere, hc⟩ := hiff.1 hd
  obtain rfl := Option.some.inj hthere
  refine ⟨hv, hd, fun h => ?_⟩
  have hnans := (heach _ hthere hc).2.2.1 h
  revert hnans
  decide

/-- A text is not set where there is NaN, which is taken for it, while NaN is set where there is the
text. -/
theorem overlooked_of_notANumber :
    let wanted := ofList [("score", .string "high")]
    let current := ofList [("score", notANumber)]
    (wanted.difference current).has "score" = false ∧
      (AttributeValue.string "high").occurrences (AttributeValue.string "high").values = 1 ∧
      (AttributeValue.string "high").occurrences notANumber.values = 0 ∧
      notANumber.equivalent (.string "high") ∧
      (AttributeValue.string "high").equivalent notANumber = false := by
  decide

end AttributeSet

end Provisioning
