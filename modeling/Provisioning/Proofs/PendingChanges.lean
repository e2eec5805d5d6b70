import Mathlib.Tactic.Common
import Provisioning.Resolution.Dates

/-!
# Changes that are under way

A subject on which the changes under way are carried out has other values of virtual attributes than
before, on itself only, and nothing else about it is different (`related_withChanges`), so that what
does not look at these values finds the same (`comp_changed`). Resolving it with no change under way
reads from each holder what resolving the subject with the changes reads
(`virtualContribution_settled`) and comes to the same end (`resolve_settled`).
-/

namespace Provisioning

namespace VirtualChanges

/-- The attribute after the changes: without a value if it is to be removed, else with its new
values if it has any. -/
def carryOut (c : VirtualChanges) (a : VirtualAttribute) : VirtualAttribute :=
  if a.schema.name ∈ c.toRemove then { a with values := some [] }
  else match c.toUpdate.lookup a.schema.name with
    | some values => { a with values := some values }
    | .none => a

variable {c : VirtualChanges} {a : VirtualAttribute}

theorem schema_carryOut : (c.carryOut a).schema = a.schema := by
  unfold carryOut
  split_ifs
  · rfl
  · split <;> rfl

theorem values_carryOut : (c.carryOut a).values = (c.pending? a.schema.name).or a.values := by
  unfold carryOut pending?
  by_cases hr : a.schema.name ∈ c.toRemove
  · simp [hr]
  · rcases c.toUpdate.lookup a.schema.name with _ | values <;> simp [hr]

end VirtualChanges

def Attributes.withChanges (as : Attributes) (c : VirtualChanges) : Attributes :=
  { as with virtual := as.virtual.map c.carryOut }

theorem Attributes.virtual?_withChanges {as : Attributes} {c : VirtualChanges} {name : String} :
    (as.withChanges c).virtual? name = (as.virtual? name).map c.carryOut := by
  rw [virtual?, withChanges, List.find?_map]
  congr 2
  funext a
  exact congrArg (fun s => s.name == name) VirtualChanges.schema_carryOut

namespace Holder

def withChanges (h : Holder) (c : VirtualChanges) : Holder :=
  { h with attributes := h.attributes.withChanges c }

variable {h : Holder} {c : VirtualChanges} {template : String}

/-- Templates do not see virtual attributes. -/
theorem bindings_withChanges : (h.withChanges c).bindings = h.bindings :=
  rfl

theorem evaluate?_withChanges : (h.withChanges c).evaluate? template = h.evaluate? template := by
  rw [evaluate?, evaluate?, bindings_withChanges]

theorem satisfies_withChanges : (h.withChanges c).satisfies template = h.satisfies template := by
  simp only [satisfies, evaluate?_withChanges]

end Holder

namespace Subject

/-- The subject with the changes carried out on itself. -/
def withChanges (s : Subject) (c : VirtualChanges) : Subject :=
  match s with
  | .user u => .user { u with attributes := u.attributes.withChanges c }
  | .role r => .role { r with attributes := r.attributes.withChanges c }
  | .membership m => .membership { m with attributes := m.attributes.withChanges c }

variable {s : Subject} {c : VirtualChanges} {kind : SubjectKind}

theorem holder_withChanges : (s.withChanges c).holder = s.holder.withChanges c := by
  rcases s with u | r | m <;> rfl

theorem kind_withChanges : (s.withChanges c).kind = s.kind := by
  rcases s with u | r | m <;> rfl

/-- What becomes of a holder when the changes of a subject are carried out: a holder of the
subject's kind is the subject itself. -/
def changed (s : Subject) (c : VirtualChanges) (h : Holder) : Holder :=
  if h.kind = s.kind then h.withChanges c else h

theorem related_withChanges :
    (s.withChanges c).related kind = (s.related kind).map (s.changed c) := by
  rcases s with u | r | m <;> rcases kind with _ | _ | _ <;> try rfl
  · exact List.map_map.symm ▸ rfl
  · exact List.map_map.symm ▸ rfl

/-- What does not look at the virtual attributes of a holder finds the same before and after. -/
theorem comp_changed {α : Type} {f : Holder → α}
    (hf : ∀ (h : Holder) as, f { h with attributes := { h.attributes with virtual := as } } = f h) :
    f ∘ s.changed c = f := by
  funext h
  rw [Function.comp_apply, changed]
  split_ifs
  · exact hf h _
  · rfl

end Subject

/-- The request after the changes: they are carried out, and none are under way. -/
def ResolutionRequest.settled (r : ResolutionRequest) : ResolutionRequest :=
  { r with subject := r.subject.withChanges r.changes, changes := .none }

namespace Resolver

variable {s : Subject} {c : VirtualChanges} {holders : List Holder} {name : String}
  {multivalue : Bool} {request : ResolutionRequest}

theorem plainContribution_changed :
    plainContribution (holders.map (s.changed c)) name multivalue =
      plainContribution holders name multivalue := by
  simp only [plainContribution]
  rw [List.filterMap_map, Subject.comp_changed fun _ _ => rfl]

theorem derivedContribution_changed :
    derivedContribution (holders.map (s.changed c)) name multivalue =
      derivedContribution holders name multivalue := by
  simp only [derivedContribution]
  rw [List.filterMap_map, List.any_map, Subject.comp_changed fun _ _ => rfl,
    Subject.comp_changed fun _ _ => rfl]

theorem virtual?_changed {h : Holder} :
    (s.changed c h).virtual? name =
      (h.virtual? name).map fun a => if h.kind = s.kind then c.carryOut a else a := by
  unfold Subject.changed
  split_ifs
  · exact Attributes.virtual?_withChanges
  · simp

/-- The values that an attribute is about to have are those that it has after the changes. -/
theorem virtualValues_settled {h : Holder} {a : VirtualAttribute} (ha : a.schema.name = name) :
    virtualValues request.settled (request.subject.changed request.changes h) name
        (if h.kind = request.subject.kind then request.changes.carryOut a else a) =
      virtualValues request h name a := by
  subst ha
  have hpending : request.settled.changes.pending? a.schema.name = none := rfl
  have hkind : (request.subject.changed request.changes h).kind = h.kind :=
    congrFun (Subject.comp_changed fun _ _ => rfl) h
  have hkey : (request.subject.changed request.changes h).key = h.key :=
    congrFun (Subject.comp_changed fun _ _ => rfl) h
  unfold virtualValues
  rw [hpending, hkind, hkey, ite_self]
  by_cases hown : h.kind = request.subject.kind
  · rw [if_pos hown, if_pos hown, VirtualChanges.values_carryOut]
    rcases request.changes.pending? a.schema.name with _ | values <;> rfl
  · rw [if_neg hown, if_neg hown]

theorem virtualContribution_settled :
    ∀ {holders : List Holder} {sum : Contribution},
      virtualContribution request.settled name sum
          (holders.map (request.subject.changed request.changes)) =
        virtualContribution request name sum holders
  | [], _ => rfl
  | h :: holders, sum => by
    rw [List.map_cons, virtualContribution, virtualContribution, virtual?_changed]
    rcases ha : h.virtual? name with _ | a
    · exact virtualContribution_settled
    · have hname : a.schema.name = name := by simpa using List.find?_some ha
      have hschema : (if h.kind = request.subject.kind then request.changes.carryOut a
          else a).schema = a.schema := by
        split_ifs
        · exact VirtualChanges.schema_carryOut
        · rfl
      simp only [Option.map_some, hschema, virtualValues_settled hname, virtualContribution_settled]

theorem identityTexts_withChanges {kind : InternalKind} :
    identityTexts (s.withChanges c) kind = identityTexts s kind := by
  rcases kind with ⟨_, _⟩ | _ | _ | _ | _ | _ <;> simp only [identityTexts]
  · rw [Subject.related_withChanges, List.map_map, Subject.comp_changed fun _ _ => rfl]
  · rw [Subject.related_withChanges, List.filterMap_map, Subject.comp_changed fun _ _ => rfl]
  · rw [Subject.related_withChanges, List.filterMap_map, Subject.comp_changed fun _ _ => rfl]
  · rcases s with u | r | m <;> rfl

/-- An item other than a password's gives the same after the changes. -/
theorem contribution_settled {item : MappingItem} :
    contribution request.settled item = contribution request item := by
  have hsubject : request.settled.subject = request.subject.withChanges request.changes := rfl
  simp only [contribution, hsubject, Subject.kind_withChanges, Subject.related_withChanges,
    identityTexts_withChanges]
  split
  · rw [plainContribution_changed]
  · rw [derivedContribution_changed]
  · rw [virtualContribution_settled]
  · rfl
  · rfl

theorem password_settled {resolver : Resolver} {draws : Draws} :
    resolver.password request.settled draws = resolver.password request draws := by
  obtain ⟨s, _, _, _, _⟩ := request
  rcases s with u | r | m <;> rfl

theorem itemContribution_settled {resolver : Resolver} {draws : Draws} {item : MappingItem} :
    resolver.itemContribution request.settled draws item =
      resolver.itemContribution request draws item := by
  rw [itemContribution, itemContribution, contribution_settled, passwordContribution,
    passwordContribution, password_settled]
  rfl

/-- The subject satisfies the same conditions. -/
theorem add_settled {d : Draft} {item : MappingItem} {given : Option Contribution} :
    d.add request.settled.subject.holder item given = d.add request.subject.holder item given := by
  simp only [ResolutionRequest.settled, Subject.holder_withChanges, Draft.add, Draft.mark,
    Holder.satisfies_withChanges]

theorem draft_settled {resolver : Resolver} {draws : Draws} {items : List MappingItem} :
    resolver.draft request.settled draws items = resolver.draft request draws items := by
  simp only [draft, itemContribution_settled, add_settled]

theorem finish_settled {mapping : Mapping} {d : Draft} :
    finish request.settled mapping d = finish request mapping d := by
  have hlink : (fun link => request.settled.subject.holder.evaluate? link) =
      fun link => request.subject.holder.evaluate? link := by
    simp only [ResolutionRequest.settled, Subject.holder_withChanges, Holder.evaluate?_withChanges]
  simp only [finish, hlink]
  rfl

theorem mappingFor_settled : mappingFor request.settled = mappingFor request := by
  simp only [mappingFor, ResolutionRequest.settled, Subject.kind_withChanges]

theorem canTake_settled {item : MappingItem} {given : Contribution} :
    canTake request.settled item given = canTake request item given := by
  simp only [canTake, ResolutionRequest.settled, Subject.related_withChanges,
    Subject.holder_withChanges, List.all_map]
  rw [Subject.comp_changed fun _ _ => rfl]
  rfl

theorem canTakeAll_settled {resolver : Resolver} {draws : Draws} :
    ∀ {items : List MappingItem},
      resolver.canTakeAll request.settled draws items = resolver.canTakeAll request draws items
  | [] => by
    simp only [canTakeAll, ResolutionRequest.settled, Subject.holder_withChanges]
    rfl
  | item :: items => by
    simp only [canTakeAll, itemContribution_settled, canTake_settled, canTakeAll_settled]

/-- Resolving with changes under way comes to what resolving comes to after they were carried out,
and meets a date that cannot be shown exactly if that does. -/
theorem resolve_settled (resolver : Resolver) (request : ResolutionRequest) (draws : Draws) :
    resolver.resolve request draws = resolver.resolve request.settled draws ∧
      resolver.canResolve request draws = resolver.canResolve request.settled draws := by
  refine ⟨?_, ?_⟩
  · simp only [resolve, mappingFor_settled, draft_settled, finish_settled]
  · simp only [canResolve, mappingFor_settled, canTakeAll_settled]

end Resolver

end Provisioning
