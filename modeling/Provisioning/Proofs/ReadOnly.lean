import Mathlib.Data.List.TakeWhile
import Provisioning.Proofs.Faults

/-!
# Attributes that may not be written

An item for a virtual attribute that is read-only for one of its holders gives nothing, if it gives
no fault (`itemContribution_of_isReadOnly`), so a mapping comes to the same without it
(`draft_without`, `canTakeAll_without`, `finish_without`). Where the attribute is read-only for all
holders nobody's values are read, and there is no fault either (`fault?_of_readOnly`).
-/

namespace Provisioning

namespace Mapping

variable {objectClass resource : String} {kind : SubjectKind} {item : MappingItem}
  {before after : List MappingItem}

theorem validate_without (hid : item.isAccountId = false) (hp : item.isPassword = false) :
    Mapping.validate ⟨objectClass, before ++ item :: after⟩ resource kind =
      Mapping.validate ⟨objectClass, before ++ after⟩ resource kind := by
  simp only [validate, List.filter_append, List.filter_cons, hid, hp, Bool.false_eq_true, if_false]

theorem accountIdItem?_without (hid : item.isAccountId = false) :
    Mapping.accountIdItem? ⟨objectClass, before ++ item :: after⟩ =
      Mapping.accountIdItem? ⟨objectClass, before ++ after⟩ := by
  simp only [accountIdItem?, List.find?_append, List.find?_cons, hid]

end Mapping

namespace Resolver

variable {resolver : Resolver} {request : ResolutionRequest} {draws : Draws} {item : MappingItem}
  {before after : List MappingItem} {objectClass : String} {owner : SubjectKind}
  {m m' : Mapping} {d : Draft} {r : Resolution} {fault : Fault}

section Omission

/-- An item that is left out has no part in the draft. -/
theorem draft_without (hnone : resolver.itemContribution request draws item = .ok none) :
    resolver.draft request draws (before ++ item :: after) =
      resolver.draft request draws (before ++ after) := by
  have htake (d : Draft) : resolver.takeIn request draws d item = .ok d := by
    rw [takeIn, hnone]
    rfl
  show (before ++ item :: after).foldlM (resolver.takeIn request draws) _ =
    (before ++ after).foldlM (resolver.takeIn request draws) _
  simp only [List.foldlM_append, List.foldlM_cons, htake]
  rfl

/-- Nor does it show a date. -/
theorem canTakeAll_without (hnone : resolver.itemContribution request draws item = .ok none) :
    ∀ {before : List MappingItem}, resolver.canTakeAll request draws (before ++ item :: after) =
      resolver.canTakeAll request draws (before ++ after)
  | [] => by rw [List.nil_append, List.nil_append, canTakeAll, hnone]
  | first :: before => by
    rw [List.cons_append, List.cons_append, canTakeAll, canTakeAll, canTakeAll_without hnone]

/-- Only the account id item of a mapping matters after its items were taken in. -/
theorem finish_withMapping (h : m.accountIdItem? = m'.accountIdItem?) :
    finish (request.withMapping m) m d = finish request m' d := by
  have hattribute : accountIdAttribute? m = accountIdAttribute? m' := by
    rw [accountIdAttribute?, accountIdAttribute?, h]
  obtain ⟨s, _, _, _, _⟩ := request
  rcases s with u | r | m <;> simp only [finish, hattribute] <;> rfl

/-- A virtual attribute that is read-only for some holder is not sent for any. -/
theorem itemContribution_of_isReadOnly (hkind : item.internalKind = .attributeOf owner .virtual)
    (hp : item.isPassword = false)
    (hread : ∃ h ∈ request.subject.related owner, h.isReadOnly item.internalName)
    (hgiven : resolver.isGiven request draws item) :
    resolver.itemContribution request draws item = .ok none := by
  have hgives : item.givesPassword = false := by simp [MappingItem.givesPassword, hp, hkind]
  obtain ⟨given, hg⟩ := hgiven
  have hc : contribution request item = .ok given := by
    rwa [itemContribution, hgives, if_neg Bool.false_ne_true] at hg
  have hleft : isLeftOut request.subject item := by
    simp only [isLeftOut, hkind]
    exact List.any_eq_true.2 hread
  have hnone := (contribution_eq hgives hc).1
  rw [hleft, Option.isNone_iff_eq_none] at hnone
  rw [hg, hnone]

/-- Without an item that is left out a mapping comes to the same. -/
theorem resolve_of_leftOut
    (hm : request.resource.mapping? request.subject.kind =
      some ⟨objectClass, before ++ item :: after⟩)
    (hid : item.isAccountId = false) (hp : item.isPassword = false)
    (hnone : item.inPropagation → resolver.itemContribution request draws item = .ok none)
    (h : resolver.resolve request draws = .ok r) :
    let others := request.withMapping ⟨objectClass, before ++ after⟩
    resolver.resolve others draws = .ok r ∧
      resolver.canResolve others draws = resolver.canResolve request draws := by
  intro others
  obtain ⟨mapping, hok, -⟩ := bind_eq_ok.1 h
  obtain rfl := eq_of_mappingFor hm hok
  have hvalid : Mapping.validate ⟨objectClass, before ++ after⟩ request.resource.key
      request.subject.kind = .ok () := by
    rw [← Mapping.validate_without hid hp]
    exact (mappingFor_eq_ok.1 hok).2
  have hfinish : finish others ⟨objectClass, before ++ after⟩ =
      finish request ⟨objectClass, before ++ item :: after⟩ :=
    funext fun _ => finish_withMapping (Mapping.accountIdItem?_without hid).symm
  rw [resolve_eq_map hok] at h
  rw [resolve_valid hvalid, canResolve_valid hvalid, hfinish, canResolve, hok, ← h]
  simp only [Mapping.propagationItems, List.filter_append, List.filter_cons]
  split_ifs with hin
  · rw [draft_without (hnone hin), canTakeAll_without (hnone hin)]
    exact ⟨rfl, rfl⟩
  · exact ⟨rfl, rfl⟩

end Omission

/-- Where all holders' attributes are read-only no values are looked for. -/
theorem fault?_of_readOnly {who name : String}
    (hkind : item.internalKind = .attributeOf owner .virtual)
    (hread : ∀ h ∈ request.subject.related owner, ∀ a, h.virtual? item.internalName = some a →
      a.schema.readOnly) :
    resolver.fault? request draws item ≠ some (.cacheConsistency who name) := by
  intro hf
  obtain ⟨-, rfl, h, hh, hvalues, -⟩ := exists_holder_of_fault? hf
  rw [holdersRead, hkind] at hh
  have hwritable := List.mem_takeWhile_imp hh
  refine hvalues fun a ha => ?_
  have hreadOnly := hread h ((List.takeWhile_sublist _).subset hh) a ha
  simp [Holder.isReadOnly, ha, hreadOnly] at hwritable

/-- A resolution that succeeds comes to the same without an item for a virtual attribute that is
read-only for some holder, and meets a date that cannot be shown exactly if it does so without the
item. Where the attribute is read-only for all holders that have it, values that are not known are a
fault of other items only. -/
theorem resolve_without (resolver : Resolver) (request : ResolutionRequest) (draws : Draws)
    (hm : request.resource.mapping? request.subject.kind =
      some ⟨objectClass, before ++ item :: after⟩)
    (hkind : item.internalKind = .attributeOf owner .virtual) :
    (item.isAccountId = false → item.isPassword = false →
      (∃ h ∈ request.subject.related owner, h.isReadOnly item.internalName) →
        let others := request.withMapping ⟨objectClass, before ++ after⟩
        ∀ r, resolver.resolve request draws = .ok r → resolver.resolve others draws = .ok r ∧
          resolver.canResolve others draws = resolver.canResolve request draws) ∧
    ((∀ h ∈ request.subject.related owner, ∀ a, h.virtual? item.internalName = some a →
        a.schema.readOnly) →
      ∀ who name,
        resolver.itemContribution request draws item ≠ .error (.cacheConsistency who name) ∧
        (resolver.resolve request draws = .error (.cacheConsistency who name) →
          ∃ other ∈ before ++ after, other.inPropagation ∧
            resolver.itemContribution request draws other =
              .error (.cacheConsistency who name))) := by
  refine ⟨?_, fun hread who name => ?_⟩
  · intro hid hp hread others r h
    refine resolve_of_leftOut hm hid hp (fun hin => ?_) h
    have hi : item ∈ before ++ item :: after := List.mem_append_right _ List.mem_cons_self
    exact itemContribution_of_isReadOnly hkind hp hread
      (isGiven_of_resolve hm h (List.mem_filter.2 ⟨hi, hin⟩))
  · have hne := @fault?_of_readOnly resolver request draws item owner who name hkind hread
    refine ⟨fun he => hne (faultOf_eq_some.2 he), fun h => ?_⟩
    obtain ⟨mapping, hok, other, hother, hfault⟩ := exists_item_of_cacheConsistency h
    obtain rfl := eq_of_mappingFor hm hok
    obtain ⟨hmem, hin⟩ := List.mem_filter.1 hother
    refine ⟨other, ?_, hin, faultOf_eq_some.1 hfault⟩
    rcases List.mem_append.1 hmem with hb | ha
    · exact List.mem_append_left _ hb
    · rcases List.mem_cons.1 ha with rfl | ha
      · exact absurd hfault hne
      · exact List.mem_append_right _ ha

/-- An item for the quotas of roles, which must have a value. -/
def quotaItem : MappingItem :=
  { MappingItem.simple "quota" (.attributeOf .role .virtual) "quota" with
    mandatoryCondition := "true" }

/-- The user `ann` in two roles. The quota of the second one is not known, and may not be written.
-/
def quotaRequest (first : VirtualAttribute) : ResolutionRequest :=
  let role (key : SubjectKey) (name : String) (quota : VirtualAttribute) : Role :=
    { Role.bare key name with attributes := ⟨[], [], [quota]⟩ }
  { annRequest.withMapping ⟨"person",
      [{ MappingItem.simple "username" .username "uid" with isAccountId := true }, quotaItem]⟩ with
    subject := .user { User.bare ⟨7⟩ "ann" with
      memberships := [.bare ⟨1⟩ (role ⟨2⟩ "staff" first),
        .bare ⟨3⟩ (role ⟨4⟩ "ann" ⟨⟨"quota", false, true⟩, none⟩)] } }

/-- The quota of the first role is not sent although it is known. If it may not be written either,
no value is asked for. -/
theorem resolve_without_quota :
    let asked := quotaRequest ⟨⟨"quota", false, false⟩, some ["5"]⟩
    let others : Mapping := ⟨"person",
      [{ MappingItem.simple "username" .username "uid" with isAccountId := true }]⟩
    (∃ r, Resolver.resolve ⟨0, none, none⟩ asked (.ofSeed 0) = .ok r ∧
      Resolver.resolve ⟨0, none, none⟩ (asked.withMapping others) (.ofSeed 0) = .ok r) ∧
    ∀ who, Resolver.itemContribution ⟨0, none, none⟩
      (quotaRequest ⟨⟨"quota", false, true⟩, none⟩) (.ofSeed 0) quotaItem ≠
        .error (.cacheConsistency who "quota") := by
  intro asked others
  refine ⟨⟨_, rfl, ?_⟩, fun who => ?_⟩
  · obtain ⟨hsame, -⟩ := @resolve_without quotaItem others.items [] _ .role ⟨0, none, none⟩
      asked (.ofSeed 0) rfl rfl
    exact (hsame rfl rfl (by decide) _ rfl).1
  · obtain ⟨-, hnever⟩ := @resolve_without quotaItem others.items [] _ .role ⟨0, none, none⟩
      (quotaRequest ⟨⟨"quota", false, true⟩, none⟩) (.ofSeed 0) rfl rfl
    exact (hnever (by decide) who "quota").1

end Resolver

end Provisioning
