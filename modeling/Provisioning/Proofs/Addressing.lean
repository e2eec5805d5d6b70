import Provisioning.Proofs.Holders

/-!
# Addressing the attributes of a holder

Attributes are addressed by the kind and the key of their holder. There is something under an
address exactly if one of the holders that are read for the kind has the key; a change goes to the
first of them, and nothing else in the subject is touched (`changeAttributes_first`): not the other
holders, of whatever kind and whatever key, and nothing that is not an attribute.
-/

namespace Provisioning

namespace Subject

section First

variable {α : Type} {p : α → Bool} {f : α → α} {l l' : List α}

theorem isSome_changeFirst : ∀ {l : List α}, (changeFirst p f l).isSome ↔ ∃ x ∈ l, p x
  | [] => by simp [changeFirst]
  | x :: xs => by
    rw [changeFirst_cons]
    split_ifs with hx
    · exact iff_of_true rfl ⟨x, List.mem_cons_self, hx⟩
    · rw [Option.isSome_map, isSome_changeFirst]
      simp [hx]

/-- What is changed lies between items that do not satisfy the condition and items that stay as
they are. -/
theorem exists_of_changeFirst : ∀ {l l' : List α}, changeFirst p f l = some l' →
    ∃ before x after, l = before ++ x :: after ∧ p x ∧ (∀ y ∈ before, ¬p y) ∧
      l' = before ++ f x :: after
  | [], _, h => by simp [changeFirst] at h
  | x :: xs, l', h => by
    rw [changeFirst_cons] at h
    split_ifs at h with hx
    · exact ⟨[], x, xs, rfl, hx, by simp, (Option.some.inj h).symm⟩
    · obtain ⟨ys, hys, rfl⟩ := Option.map_eq_some_iff.1 h
      obtain ⟨before, z, after, rfl, hz, hbefore, rfl⟩ := exists_of_changeFirst hys
      exact ⟨x :: before, z, after, rfl, hz, List.forall_mem_cons.2 ⟨hx, hbefore⟩, rfl⟩

end First

variable {s s' : Subject} {kind : SubjectKind} {key : SubjectKey} {f : Attributes → Attributes}

/-- All of a subject but its attributes and those of its memberships and their roles. -/
def withoutAttributes (s : Subject) : Subject :=
  s.mapAttributes fun _ _ _ => .none

theorem attributes?_of_first {before after : List Holder} {h : Holder}
    (hl : s.related kind = before ++ h :: after) (hk : h.key = key)
    (hbefore : ∀ other ∈ before, other.key ≠ key) :
    s.attributes? kind key = some h.attributes := by
  have hnone : before.find? (fun other => other.key == key) = none :=
    List.find?_eq_none.2 fun other ho hb => hbefore other ho (beq_iff_eq.1 hb)
  rw [attributes?, hl, List.find?_append, hnone, Option.none_or, List.find?_cons, beq_iff_eq.2 hk]
  rfl

theorem isSome_changeAttributes :
    (s.changeAttributes kind key f).isSome ↔ ∃ h ∈ s.related kind, h.key = key := by
  have hfirst := @isSome_changeFirst Holder (fun h => h.key == key)
    (fun h => { h with attributes := f h.attributes }) (s.related kind)
  rw [changeFirst_related, Option.isSome_map] at hfirst
  simpa only [beq_iff_eq] using hfirst

theorem exists_of_changeAttributes (h : s.changeAttributes kind key f = some s') :
    ∃ before h after, s.related kind = before ++ h :: after ∧ h.key = key ∧
      (∀ other ∈ before, other.key ≠ key) ∧
      s'.related kind = before ++ { h with attributes := f h.attributes } :: after := by
  have hfirst := @changeFirst_related s kind key f
  rw [h, Option.map_some] at hfirst
  obtain ⟨before, holder, after, hl, hk, hbefore, hl'⟩ := exists_of_changeFirst hfirst
  exact ⟨before, holder, after, hl, beq_iff_eq.1 hk,
    fun other ho he => hbefore other ho (beq_iff_eq.2 he), hl'⟩

/-- There are attributes under a kind and a key exactly if one of the holders read for the kind has
the key. They are those of the first such holder, before and after a change, whatever it makes of
them. All other holders of the kind, before it and after it, those of any other kind, and the whole
subject but for attributes stay as they are. -/
theorem changeAttributes_first (s : Subject) (kind : SubjectKind) (key : SubjectKey)
    (f : Attributes → Attributes) :
    ((s.changeAttributes kind key f).isSome ↔ ∃ h ∈ s.related kind, h.key = key) ∧
      ∀ s', s.changeAttributes kind key f = some s' →
        ∃ before h after, s.related kind = before ++ h :: after ∧ h.key = key ∧
          (∀ other ∈ before, other.key ≠ key) ∧
          s.attributes? kind key = some h.attributes ∧
          s'.attributes? kind key = some (f h.attributes) ∧
          s'.related kind = before ++ { h with attributes := f h.attributes } :: after ∧
          (∀ other, other ≠ kind → s'.related other = s.related other) ∧
          s'.withoutAttributes = s.withoutAttributes := by
  refine ⟨isSome_changeAttributes, fun s' hs' => ?_⟩
  obtain ⟨before, h, after, hl, hk, hbefore, hl'⟩ := exists_of_changeAttributes hs'
  exact ⟨before, h, after, hl, hk, hbefore, attributes?_of_first hl hk hbefore,
    attributes?_of_first hl' hk hbefore, hl', fun other ho => related_of_ne hs' ho,
    mapAttributes_changeAttributes (fun _ => rfl) hs'⟩

end Subject

end Provisioning
