import Mathlib.Tactic.Common
import Provisioning.Subject.Related

/-!
# Changing the attributes of a holder

The holders that a subject reaches are read as lists, and changed by kind and key. To change the
attributes under a kind and a key is to change those of the first holder with that key in the list
of that kind (`changeFirst_related`), no other holder, of whatever kind (`related_of_ne`), and
nothing else of the subject (`mapAttributes_changeAttributes`).
-/

namespace Provisioning

section MapAttributes

variable (g : SubjectKind → SubjectKey → Attributes → Attributes)

def Role.mapAttributes (r : Role) : Role :=
  { r with attributes := g .role r.key r.attributes }

def Membership.mapAttributes (m : Membership) : Membership :=
  { m with
    role := m.role.mapAttributes g
    attributes := g .membership m.key m.attributes }

def User.mapAttributes (u : User) : User :=
  { u with
    attributes := g .user u.key u.attributes
    memberships := u.memberships.map (Membership.mapAttributes g) }

/-- The subject with all attributes replaced, its own and those of its memberships and their
roles. -/
def Subject.mapAttributes : Subject → Subject
  | .user u => .user (u.mapAttributes g)
  | .role r => .role (r.mapAttributes g)
  | .membership m => .membership (m.mapAttributes g)

end MapAttributes

namespace Subject

section First

variable {α β : Type} {p : α → Bool} {f : α → α} {l l' : List α}

theorem changeFirst_cons {x : α} : changeFirst p f (x :: l) =
    if p x then some (f x :: l) else (changeFirst p f l).map (x :: ·) :=
  rfl

/-- Only the first item that satisfies the condition is changed. -/
theorem getElem?_changeFirst : ∀ {l l' : List α} {i : Nat}, changeFirst p f l = some l' →
    l'[i]? = if l.findIdx? p = some i then l[i]?.map f else l[i]?
  | [], _, _, h => by simp [changeFirst] at h
  | x :: xs, l', i, h => by
    rw [changeFirst_cons] at h
    rw [List.findIdx?_cons]
    split_ifs at h with hx
    · obtain rfl := Option.some.inj h
      rcases i with _ | i <;> simp [hx]
    · obtain ⟨ys, hys, rfl⟩ := Option.map_eq_some_iff.1 h
      rcases i with _ | i
      · simp [hx]
      · rw [List.getElem?_cons_succ, getElem?_changeFirst hys]
        simp [hx]

theorem findIdx?_of_changeFirst : ∀ {l : List α}, changeFirst p f l = none → l.findIdx? p = none
  | [], _ => rfl
  | x :: xs, h => by
    rw [changeFirst_cons] at h
    split_ifs at h with hx
    rw [List.findIdx?_cons, findIdx?_of_changeFirst (Option.map_eq_none_iff.1 h), if_neg hx]
    rfl

theorem changeFirst_map {g : α → β} {q : β → Bool} {f' : β → β} (hq : ∀ x, q (g x) = p x)
    (hf : ∀ x, g (f x) = f' (g x)) :
    ∀ {l : List α}, changeFirst q f' (l.map g) = (changeFirst p f l).map (List.map g)
  | [] => rfl
  | x :: xs => by
    rw [List.map_cons, changeFirst_cons, changeFirst_cons, changeFirst_map hq hf, hq, ← hf]
    split_ifs
    · rfl
    · rw [Option.map_map, Option.map_map]
      rfl

/-- What cannot tell an item from what it is changed into sees no change. -/
theorem map_eq_of_changeFirst {g : α → β} (hf : ∀ x, p x → g (f x) = g x) :
    ∀ {l l' : List α}, changeFirst p f l = some l' → l'.map g = l.map g
  | [], _, h => by simp [changeFirst] at h
  | x :: xs, l', h => by
    rw [changeFirst_cons] at h
    split_ifs at h with hx
    · obtain rfl := Option.some.inj h
      rw [List.map_cons, List.map_cons, hf x hx]
    · obtain ⟨ys, hys, rfl⟩ := Option.map_eq_some_iff.1 h
      rw [List.map_cons, List.map_cons, map_eq_of_changeFirst hf hys]

theorem map_of_changeFirst {g : α → β} (hf : ∀ x, g (f x) = g x)
    (h : changeFirst p f l = some l') : l'.map g = l.map g :=
  map_eq_of_changeFirst (fun x _ => hf x) h

end First

variable {s s' : Subject} {kind other : SubjectKind} {key : SubjectKey} {f : Attributes → Attributes}
  {g : SubjectKind → SubjectKey → Attributes → Attributes}

theorem kind_of_mem_related {h : Holder} (hh : h ∈ s.related kind) : h.kind = kind := by
  rcases s with u | r | m <;> rcases kind with _ | _ | _ <;>
    simp only [related, User.roles, List.map_map, List.mem_map, List.mem_singleton,
      List.not_mem_nil] at hh
  all_goals first
    | (subst hh; rfl)
    | (obtain ⟨_, -, rfl⟩ := hh; rfl)

theorem changeFirst_singleton {α : Type} {p : α → Bool} {f : α → α} {x : α} :
    changeFirst p f [x] = if p x then some [f x] else none :=
  rfl

/-- Of the holders of the kind the first one with the key is changed, if there is one. -/
theorem changeFirst_related :
    changeFirst (fun h => h.key == key) (fun h => { h with attributes := f h.attributes })
      (s.related kind) = (s.changeAttributes kind key f).map fun s' => s'.related kind := by
  rcases s with u | r | m <;> rcases kind with _ | _ | _
  · simp only [related, changeAttributes, changeFirst_singleton, User.holder, beq_iff_eq]
    split_ifs <;> rfl
  · simp only [related, changeAttributes, User.roles, List.map_map, Option.map_map]
    exact changeFirst_map (fun _ => by rfl) (fun _ => by rfl)
  · simp only [related, changeAttributes, Option.map_map]
    exact changeFirst_map (fun _ => by rfl) (fun _ => by rfl)
  · rfl
  · simp only [related, changeAttributes, changeFirst_singleton, Role.holder, beq_iff_eq]
    split_ifs <;> rfl
  · rfl
  · rfl
  · simp only [related, changeAttributes, changeFirst_singleton, Role.holder, beq_iff_eq]
    split_ifs <;> rfl
  · simp only [related, changeAttributes, changeFirst_singleton, Membership.holder, beq_iff_eq]
    split_ifs <;> rfl

theorem related_of_ne (h : s.changeAttributes kind key f = some s') (hk : other ≠ kind) :
    s'.related other = s.related other := by
  rcases s with u | r | m <;> rcases kind with _ | _ | _ <;> unfold changeAttributes at h
  · simp only at h
    split_ifs at h
    obtain rfl := Option.some.inj h
    rcases other with _ | _ | _ <;> first | exact absurd rfl hk | rfl
  · obtain ⟨ms, hms, rfl⟩ := Option.map_eq_some_iff.1 h
    rcases other with _ | _ | _
    · rfl
    · exact absurd rfl hk
    · exact map_of_changeFirst (fun _ => by rfl) hms
  · obtain ⟨ms, hms, rfl⟩ := Option.map_eq_some_iff.1 h
    rcases other with _ | _ | _
    · rfl
    · simp only [related, User.roles, List.map_map]
      exact map_of_changeFirst (fun _ => by rfl) hms
    · exact absurd rfl hk
  · simp at h
  · simp only at h
    split_ifs at h
    obtain rfl := Option.some.inj h
    rcases other with _ | _ | _ <;> first | exact absurd rfl hk | rfl
  · simp at h
  · simp at h
  · simp only at h
    split_ifs at h
    obtain rfl := Option.some.inj h
    rcases other with _ | _ | _ <;> first | exact absurd rfl hk | rfl
  · simp only at h
    split_ifs at h
    obtain rfl := Option.some.inj h
    rcases other with _ | _ | _ <;> first | exact absurd rfl hk | rfl

theorem kind_of_changeAttributes (h : s.changeAttributes kind key f = some s') :
    s'.kind = s.kind := by
  rcases s with u | r | m <;> rcases kind with _ | _ | _ <;> simp only [changeAttributes,
    Option.ite_none_right_eq_some, Option.some.injEq, Option.map_eq_some_iff, reduceCtorEq] at h
  all_goals first
    | (obtain ⟨-, rfl⟩ := h; rfl)
    | (obtain ⟨_, -, rfl⟩ := h; rfl)

/-- What does not tell the attributes under an address from those they are changed into sees no
change of the subject. -/
theorem mapAttributes_changeAttributes (hf : ∀ as, g kind key (f as) = g kind key as)
    (h : s.changeAttributes kind key f = some s') : s'.mapAttributes g = s.mapAttributes g := by
  rcases s with u | r | m <;> rcases kind with _ | _ | _ <;> simp only [changeAttributes,
    Option.ite_none_right_eq_some, Option.some.injEq, Option.map_eq_some_iff, reduceCtorEq] at h
  · obtain ⟨rfl, rfl⟩ := h
    simp only [mapAttributes, User.mapAttributes, hf]
  · obtain ⟨ms, hms, rfl⟩ := h
    simp only [mapAttributes, User.mapAttributes]
    rw [map_eq_of_changeFirst (fun m hm => ?_) hms]
    obtain rfl := beq_iff_eq.1 hm
    simp only [Membership.mapAttributes, Role.mapAttributes, hf]
  · obtain ⟨ms, hms, rfl⟩ := h
    simp only [mapAttributes, User.mapAttributes]
    rw [map_eq_of_changeFirst (fun m hm => ?_) hms]
    obtain rfl := beq_iff_eq.1 hm
    simp only [Membership.mapAttributes, hf]
  · obtain ⟨rfl, rfl⟩ := h
    simp only [mapAttributes, Role.mapAttributes, hf]
  · obtain ⟨rfl, rfl⟩ := h
    simp only [mapAttributes, Membership.mapAttributes, Role.mapAttributes, hf]
  · obtain ⟨rfl, rfl⟩ := h
    simp only [mapAttributes, Membership.mapAttributes, hf]

end Subject

end Provisioning
