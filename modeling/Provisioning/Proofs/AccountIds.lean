import Provisioning.Proofs.ResolvedAttributes

/-!
# The attribute of the account id

The account id is put among the attributes after all items have been taken in, under the name of its
item. So its attribute has the account id alone (`get?_accountId`), but for a marker, which comes
later still. What other items send under the same name is not united with the account id but
replaced by it (`resolve_accountId`, `replaced_by_accountId`).
-/

namespace Provisioning.Resolver

open AttributeValue

variable {resolver : Resolver} {request : ResolutionRequest} {draws : Draws}
  {items : List MappingItem} {idItem : MappingItem} {mapping : Mapping} {x id : String}
  {r : Resolution}

theorem get?_setIfAny {s : AttributeSet} {name : String} {value : Option String} :
    (setIfAny name value s).get? x =
      if x = name then (value.map .string).or (s.get? x) else s.get? x := by
  rcases value with _ | v
  · simp [setIfAny]
  · rw [setIfAny, AttributeSet.get?_set]
    rfl

theorem get?_listIfAny {s : AttributeSet} {name : String} {names : List String} :
    (listIfAny name names s).get? x =
      if x = name ∧ names ≠ [] then some (.strings names) else s.get? x := by
  rcases names with _ | ⟨n, ns⟩
  · simp [listIfAny]
  · rw [listIfAny, List.isEmpty_cons, if_neg Bool.false_ne_true, AttributeSet.get?_set]
    simp

/-- The names that an attribute lists if it is a marker. -/
def listedUnder (resolver : Resolver) (request : ResolutionRequest) (draws : Draws)
    (items : List MappingItem) (x : String) : List String :=
  ((items.filter (resolver.lacks request draws)).filter fun item =>
    x == if resolver.isAbsent request draws item then missingMarker else emptyMarker).map
      MappingItem.externalName

theorem listedUnder_marker (present : Bool) :
    resolver.listedUnder request draws items (if present then emptyMarker else missingMarker) =
      items.filterMap (Draft.listed? request.subject.holder (resolver.given request draws)
        present) := by
  rw [filterMap_listed?, listedUnder]
  refine congrArg (List.map _) (List.filter_congr fun item _ => ?_)
  rcases resolver.isAbsent request draws item <;> rcases present <;> rfl

theorem listedUnder_missing : resolver.listedUnder request draws items missingMarker =
    (Draft.start.addAll request.subject.holder (resolver.given request draws) items).missing := by
  rw [Draft.missing_addAll]
  exact listedUnder_marker false

theorem listedUnder_empty : resolver.listedUnder request draws items emptyMarker =
    (Draft.start.addAll request.subject.holder (resolver.given request draws) items).empty := by
  rw [Draft.empty_addAll]
  exact listedUnder_marker true

theorem listedUnder_of_ne (hmissing : x ≠ missingMarker) (hempty : x ≠ emptyMarker) :
    resolver.listedUnder request draws items x = [] := by
  rw [listedUnder, List.map_eq_nil_iff, List.filter_eq_nil_iff]
  intro item _
  split_ifs <;> simp [hmissing, hempty]

/-- The attribute of the account id has the account id, unless it is a marker with something to
list. -/
theorem get?_accountId {d : Draft} (hd : d = Draft.start.addAll request.subject.holder
      (resolver.given request draws) mapping.propagationItems)
    (haccount : (finish request mapping d).accountId = some id)
    (hid : mapping.accountIdItem? = some idItem) (huid : idItem.externalName ≠ uidAttribute)
    (hname : idItem.externalName ≠ nameAttribute) :
    let listed := resolver.listedUnder request draws mapping.propagationItems idItem.externalName
    (finish request mapping d).attributes.get? idItem.externalName =
      some (if listed = [] then .string id else .strings listed) := by
  have hsome : d.accountId.bind Text.nonBlank? = some id := haccount
  simp only [finish, accountIdAttribute?_eq hid, if_neg huid, hsome]
  rw [get?_listIfAny, get?_listIfAny, get?_setIfAny_of_ne hname, get?_setIfAny, if_pos rfl, hd,
    ← listedUnder_missing, ← listedUnder_empty]
  generalize idItem.externalName = x
  have hdistinct : missingMarker ≠ emptyMarker := by decide
  by_cases hempty : x = emptyMarker
  · subst hempty
    by_cases hlisted : resolver.listedUnder request draws mapping.propagationItems emptyMarker = []
    · simp [hlisted, hdistinct.symm]
    · simp [hlisted]
  · by_cases hmissing : x = missingMarker
    · subst hmissing
      by_cases hlisted :
          resolver.listedUnder request draws mapping.propagationItems missingMarker = []
      · simp [hlisted, hempty]
      · simp [hlisted, hempty]
    · simp [hempty, hmissing, listedUnder_of_ne hmissing hempty]

theorem isAmong_single {t : String} {w : AttributeValue} :
    w.isAmong (AttributeValue.string t).values ↔ w = .string t := by
  have hamong : w.isAmong (AttributeValue.string t).values = (AttributeValue.string t).same w :=
    Bool.or_false _
  rw [hamong]
  cases w with
  | string s => exact beq_iff_eq.trans ⟨fun h => h ▸ rfl, fun h => (string.inj h).symm⟩
  | _ => simp [same]

/-- The attribute of the account id has the account id alone, or what it lists as a marker. So it
has what other items send there, besides the account id, exactly if that is the account id too. -/
theorem resolve_accountId (resolver : Resolver) (request : ResolutionRequest) (draws : Draws)
    (h : resolver.resolve request draws = .ok r) (haccount : r.accountId = some id)
    (hm : request.resource.mapping? request.subject.kind = some mapping)
    (hid : mapping.accountIdItem? = some idItem) (huid : idItem.externalName ≠ uidAttribute)
    (hname : idItem.externalName ≠ nameAttribute) :
    let x := idItem.externalName
    let others := (mapping.propagationItems.filter (sends request.subject x)).filter fun item =>
      !item.isAccountId
    let listed := resolver.listedUnder request draws mapping.propagationItems x
    ∃ v, r.attributes.get? x = some v ∧
      v = (if listed = [] then .string id else .strings listed) ∧
      (listed = [] → ((∀ w ∈ .string id :: others.flatMap (sentValues request),
          w.isAmong v.values) ↔ ∀ w ∈ others.flatMap (sentValues request), w = .string id)) := by
  intro x others listed
  obtain rfl := eq_of_resolve hm h
  refine ⟨_, get?_accountId rfl haccount hid huid hname, rfl, fun hlisted => ?_⟩
  rw [if_pos hlisted]
  simp only [List.forall_mem_cons, isAmong_single, true_and]

/-- A mapping in which the names of the roles are to be sent with the account id. -/
def rolesWithAccountId : Mapping where
  objectClass := "person"
  items := [{ MappingItem.simple "username" .username "groups" with isAccountId := true },
    .simple "name" .roleName "groups"]

theorem resolve_accountId_roles :
    ∃ r v, Resolver.resolve ⟨0, none, none⟩ (annRequest.withMapping rolesWithAccountId)
        (.ofSeed 0) = .ok r ∧ r.accountId = some "ann" ∧
      r.attributes.get? "groups" = some v ∧ v = .string "ann" ∧
      ¬∀ w ∈ AttributeValue.string "ann" :: [.string "staff", .string "ann"],
        w.isAmong v.values := by
  obtain ⟨v, hget, hv, hiff⟩ := resolve_accountId ⟨0, none, none⟩
    (annRequest.withMapping rolesWithAccountId) (.ofSeed 0) rfl rfl rfl rfl (by decide) (by decide)
  refine ⟨_, v, rfl, rfl, hget, hv, fun hall => ?_⟩
  have hstaff := (hiff rfl).1 hall (.string "staff") List.mem_cons_self
  exact absurd (AttributeValue.string.inj hstaff) (by decide)

/-- A mapping in which a mail is to be sent with the account id. -/
def mailWithAccountId : Mapping where
  objectClass := "person"
  items := [{ MappingItem.simple "username" .username "cn" with isAccountId := true },
    .simple "mail" (.attributeOf .user .plain) "cn"]

/-- The user `ann` with a mail. -/
def mailedRequest : ResolutionRequest :=
  { annRequest.withMapping mailWithAccountId with
    subject := .user { User.bare ⟨7⟩ "ann" with
      attributes := Attributes.none.addPlain (.string "mail" "ann@x.org") } }

/-- The mail is not sent: the account id is put in its place. -/
theorem replaced_by_accountId :
    let mail := MappingItem.simple "mail" (.attributeOf .user .plain) "cn"
    ∃ r v, Resolver.resolve ⟨0, none, none⟩ mailedRequest (.ofSeed 0) = .ok r ∧
      r.accountId = some "ann" ∧
      mailWithAccountId.accountIdItem?.map MappingItem.externalName = some "cn" ∧
      mail ∈ mailWithAccountId.propagationItems ∧ sends mailedRequest.subject "cn" mail ∧
      itemValues mailedRequest mail = [.string "ann@x.org"] ∧
      r.attributes.get? "cn" = some v ∧
      (AttributeValue.string "ann@x.org").isAmong v.values = false := by
  refine ⟨_, _, rfl, rfl, rfl, by decide, by decide, rfl, rfl, by decide⟩

end Provisioning.Resolver
