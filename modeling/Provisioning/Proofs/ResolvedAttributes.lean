import Provisioning.Proofs.MandatoryValues
import Provisioning.Proofs.Unions

/-!
# The attributes of a resolution

What an item of a mapping sends is told by the holders that it reads: their values one holder after
the other (`itemValues`), as an array or as the first of them alone (`isMultivalued`), or nothing
where one of the holders has a virtual attribute that is read-only (`isLeftOut`). A resolution has
an attribute for each name under which something is sent, with the value of the one item that sends
it, or with the union of what several send (`resolve_attributes`).
-/

namespace Provisioning

open AttributeValue

theorem Datum.isSingle_toAttribute (d : Datum) (pattern : Option String) :
    (d.toAttribute pattern).isSingle := by
  cases d <;> rfl

namespace Holder

/-- Whether a holder may not be written to under a name. -/
def isReadOnly (h : Holder) (name : String) : Bool :=
  (h.virtual? name).any fun a => a.schema.readOnly

/-- Whether the schema of a holder's attribute has many values. -/
def isMultivalue (h : Holder) (name : String) : AttributeSort → Bool
  | .plain => (h.plain? name).any fun a => a.schema.multivalue
  | .derived => false
  | .virtual => (h.virtual? name).any fun a => a.schema.multivalue

end Holder

namespace Resolver

variable {resolver : Resolver} {request : ResolutionRequest} {draws : Draws} {item : MappingItem}
  {items : List MappingItem} {mapping : Mapping} {given : Option Contribution} {x : String}

section Items

/-- The values that a holder has for an item. A virtual attribute of the subject itself has those
that it is about to have. -/
def heldValues (request : ResolutionRequest) (name : String) (h : Holder) :
    AttributeSort → List AttributeValue
  | .plain => (h.plain? name).toList.flatMap fun a =>
    a.values.map fun d => d.toAttribute a.schema.conversionPattern
  | .derived => (h.derivedValue? name).toList.map .string
  | .virtual =>
    match h.virtual? name with
    | none => []
    | some a =>
      let pending :=
        if h.kind = request.subject.kind then request.changes.pending? name else none
      ((pending.or a.values).getD []).map .string

/-- The values of an item, in the order of the holders. -/
def itemValues (request : ResolutionRequest) (item : MappingItem) : List AttributeValue :=
  let subject := request.subject
  match item.internalKind with
  | .attributeOf owner sort =>
    (subject.related owner).flatMap fun h => heldValues request item.internalName h sort
  | .idOf owner => (subject.related owner).map fun h => .string h.key.text
  | .username => (subject.related .user).map fun h => .string h.label
  | .roleName => (subject.related .role).map fun h => .string h.label
  | .roleOwner => subject.roles.filterMap fun r => r.owner.map fun owner => .string owner.name
  | .password => []

/-- Whether an item sends all its values: by its flag, for a holder of another kind than the
subject's, or by the schema of a holder. -/
def isMultivalued (subject : Subject) (item : MappingItem) : Bool :=
  let owner := item.internalKind.owner
  item.multivalue || owner != subject.kind ||
    match item.internalKind.sort? with
    | some sort => (subject.related owner).any fun h => h.isMultivalue item.internalName sort
    | none => false

/-- Whether an item is left out, for a virtual attribute of a holder that is read-only. -/
def isLeftOut (subject : Subject) (item : MappingItem) : Bool :=
  match item.internalKind with
  | .attributeOf owner .virtual =>
    (subject.related owner).any fun h => h.isReadOnly item.internalName
  | _ => false

/-- Whether an item sends something under a name. -/
def sends (subject : Subject) (x : String) (item : MappingItem) : Bool :=
  item.externalName == x && !item.givesPassword && !isLeftOut subject item

/-- The single values that an item sends. -/
def sentValues (request : ResolutionRequest) (item : MappingItem) : List AttributeValue :=
  if isMultivalued request.subject item then itemValues request item
  else (itemValues request item).take 1

/-- The value that an item sends. -/
def sentValue (request : ResolutionRequest) (item : MappingItem) : AttributeValue :=
  if isMultivalued request.subject item then .array (itemValues request item)
  else (itemValues request item).headD .null

theorem isSingle_of_mem_itemValues {v : AttributeValue} (h : v ∈ itemValues request item) :
    v.isSingle := by
  unfold itemValues at h
  cases hk : item.internalKind with
  | attributeOf owner sort =>
    rw [hk] at h
    obtain ⟨holder, -, hv⟩ := List.mem_flatMap.1 h
    cases sort with
    | plain =>
      obtain ⟨a, -, hv⟩ := List.mem_flatMap.1 hv
      obtain ⟨d, -, rfl⟩ := List.mem_map.1 hv
      exact d.isSingle_toAttribute _
    | derived =>
      obtain ⟨_, -, rfl⟩ := List.mem_map.1 hv
      rfl
    | virtual =>
      rw [heldValues] at hv
      split at hv
      · cases hv
      · obtain ⟨_, -, rfl⟩ := List.mem_map.1 hv
        rfl
  | idOf _ | username | roleName =>
    rw [hk] at h
    obtain ⟨_, -, rfl⟩ := List.mem_map.1 h
    rfl
  | roleOwner =>
    rw [hk] at h
    obtain ⟨_, -, hr⟩ := List.mem_filterMap.1 h
    obtain ⟨_, -, rfl⟩ := Option.map_eq_some_iff.1 hr
    rfl
  | password =>
    rw [hk] at h
    cases h

theorem values_sentValue (request : ResolutionRequest) (item : MappingItem) :
    (sentValue request item).values = sentValues request item := by
  have hsingle : ∀ v ∈ itemValues request item, v.isSingle := fun _ => isSingle_of_mem_itemValues
  unfold sentValue sentValues
  split_ifs
  · exact valuesOf_of_single hsingle
  · rcases hv : itemValues request item with _ | ⟨v, vs⟩
    · rfl
    · exact values_of_isSingle (hsingle v (hv ▸ List.mem_cons_self))

end Items

section Contributions

theorem heldValues_of_virtualValues {name : String} {h : Holder} {a : VirtualAttribute}
    {values : List String} (ha : h.virtual? name = some a)
    (hv : virtualValues request h name a = .ok values) :
    heldValues request name h .virtual = values.map .string := by
  unfold virtualValues at hv
  simp only [heldValues, ha]
  generalize (if h.kind = request.subject.kind then request.changes.pending? name else none) =
    pending, a.values = known at hv ⊢
  rcases pending with _ | pending
  · rcases known with _ | known
    · cases hv
    · obtain rfl := Except.ok.inj hv
      rfl
  · obtain rfl := Except.ok.inj hv
    rfl

theorem virtualContribution_eq {name : String} : ∀ {holders : List Holder} {sum : Contribution},
    virtualContribution request name sum holders = .ok given →
      given.isNone = (holders.any fun h => h.isReadOnly name) ∧
      ∀ c ∈ given,
        c.values = sum.values ++ holders.flatMap (fun h => heldValues request name h .virtual) ∧
        c.multivalue = (sum.multivalue || holders.any fun h => h.isMultivalue name .virtual)
  | [], sum, h => by
    obtain rfl := Except.ok.inj h
    simp
  | h :: rest, sum, hc => by
    rw [virtualContribution] at hc
    rcases ha : h.virtual? name with _ | a <;> rw [ha] at hc
    · obtain ⟨hnone, hsome⟩ := virtualContribution_eq hc
      simp only [List.any_cons, List.flatMap_cons, Holder.isReadOnly, Holder.isMultivalue,
        heldValues, ha]
      exact ⟨hnone, hsome⟩
    · simp only at hc
      split_ifs at hc with hr
      · obtain rfl := Except.ok.inj hc
        simp [Holder.isReadOnly, ha, hr]
      · obtain ⟨values, hvalues, hrest⟩ := bind_eq_ok.1 hc
        obtain ⟨hnone, hsome⟩ := virtualContribution_eq hrest
        have hread : h.isReadOnly name = false := by simpa [Holder.isReadOnly, ha] using hr
        have hmulti : h.isMultivalue name .virtual = a.schema.multivalue := by
          simp [Holder.isMultivalue, ha]
        rw [List.any_cons, List.flatMap_cons, List.any_cons, hread, hmulti,
          heldValues_of_virtualValues ha hvalues]
        refine ⟨hnone, fun c hc => ?_⟩
        obtain ⟨hv, hm⟩ := hsome c hc
        exact ⟨by rw [hv, List.append_assoc], by rw [hm, Bool.or_assoc]⟩

theorem values_plainContribution {holders : List Holder} {name : String} {multivalue : Bool} :
    (plainContribution holders name multivalue).values =
      holders.flatMap fun h => heldValues request name h .plain := by
  rw [plainContribution, List.filterMap_eq_flatMap_toList, List.flatMap_assoc]
  rfl

theorem multivalue_plainContribution {holders : List Holder} {name : String} {multivalue : Bool} :
    (plainContribution holders name multivalue).multivalue =
      (multivalue || holders.any fun h => h.isMultivalue name .plain) := by
  rw [plainContribution, List.any_filterMap]
  rfl

theorem values_derivedContribution {holders : List Holder} {name : String} {multivalue : Bool} :
    (derivedContribution holders name multivalue).values =
      holders.flatMap fun h => heldValues request name h .derived := by
  rw [derivedContribution, List.filterMap_eq_flatMap_toList]
  refine List.flatMap_congr fun h _ => ?_
  rw [heldValues, Option.toList_map]

theorem multivalue_derivedContribution {holders : List Holder} {name : String} {multivalue : Bool} :
    (derivedContribution holders name multivalue).multivalue =
      (multivalue || holders.any fun h => h.isMultivalue name .derived) := by
  simp [derivedContribution, Holder.isMultivalue]

theorem username_of_mem_related {subject : Subject} {h : Holder} (hm : h ∈ subject.related .user) :
    h.identity? "username" = some h.label := by
  rw [Holder.identity?, Subject.kind_of_mem_related hm]
  rfl

theorem name_of_mem_related {subject : Subject} {h : Holder} (hm : h ∈ subject.related .role) :
    h.identity? "name" = some h.label := by
  rw [Holder.identity?, Subject.kind_of_mem_related hm]
  rfl

theorem identityTexts_eq (h : item.internalKind.sort? = none) :
    (identityTexts request.subject item.internalKind).map .string = itemValues request item := by
  unfold identityTexts itemValues
  cases hk : item.internalKind with
  | attributeOf owner sort =>
    rw [hk] at h
    cases h
  | idOf owner => exact List.map_map
  | username =>
    simp only
    rw [List.filterMap_congr fun h hm => username_of_mem_related hm, List.filterMap_eq_map',
      List.map_map]
    rfl
  | roleName =>
    simp only
    rw [List.filterMap_congr fun h hm => name_of_mem_related hm, List.filterMap_eq_map',
      List.map_map]
    rfl
  | roleOwner =>
    simp only
    rw [List.map_filterMap]
    simp only [Option.map_map]
    rfl
  | password => rfl

/-- What an item other than a password's gives, told by the holders that it reads. -/
theorem contribution_eq (hp : item.givesPassword = false)
    (h : contribution request item = .ok given) :
    given.isNone = isLeftOut request.subject item ∧
      ∀ c ∈ given, c.values = itemValues request item ∧
        c.multivalue = isMultivalued request.subject item := by
  unfold contribution at h
  cases hk : item.internalKind with
  | attributeOf owner sort =>
    rw [hk] at h
    simp only [isLeftOut, itemValues, isMultivalued, hk]
    cases sort with
    | plain =>
      obtain rfl := Except.ok.inj h
      refine ⟨rfl, fun c hc => ?_⟩
      obtain rfl := Option.some.inj hc
      exact ⟨values_plainContribution, multivalue_plainContribution⟩
    | derived =>
      obtain rfl := Except.ok.inj h
      refine ⟨rfl, fun c hc => ?_⟩
      obtain rfl := Option.some.inj hc
      exact ⟨values_derivedContribution, multivalue_derivedContribution⟩
    | virtual => exact virtualContribution_eq h
  | password =>
    rw [MappingItem.givesPassword, hk] at hp
    simp at hp
  | idOf _ | username | roleName | roleOwner =>
    have hvalues := @identityTexts_eq request item (by rw [hk]; rfl)
    rw [hk] at h hvalues
    obtain rfl := Except.ok.inj h
    simp only [isLeftOut, isMultivalued, hk]
    refine ⟨rfl, fun c hc => ?_⟩
    obtain rfl := Option.some.inj hc
    exact ⟨hvalues, (Bool.or_false _).symm⟩

end Contributions

section Drafts

/-- What an item other than a password's is taken in with, if it is not left out. -/
theorem map_value_given (hp : item.givesPassword = false)
    (hgiven : resolver.isGiven request draws item) :
    (resolver.given request draws item).map Draft.value =
      if isLeftOut request.subject item then none else some (sentValue request item) := by
  obtain ⟨given, hg⟩ := hgiven
  have hc : contribution request item = .ok given := by
    rwa [itemContribution, hp, if_neg Bool.false_ne_true] at hg
  obtain ⟨hnone, hsome⟩ := contribution_eq hp hc
  rw [given_of_ok hg, ← hnone]
  rcases given with _ | c
  · rfl
  · obtain ⟨hvalues, hmulti⟩ := hsome c rfl
    rw [sentValue, ← hvalues, ← hmulti]
    rfl

/-- The shares in the value under a name are what the items send there, the account id's apart. -/
theorem filterMap_share? (x : String) (h : ∀ item ∈ items, resolver.isGiven request draws item) :
    items.filterMap (Draft.share? x (resolver.given request draws)) =
      ((items.filter (sends request.subject x)).filter fun item => !item.isAccountId).map
        (sentValue request) := by
  rw [List.filter_filter, ← List.filterMap_eq_map, List.filterMap_filter]
  refine List.filterMap_congr fun item hi => ?_
  unfold Draft.share? sends
  by_cases hp : item.givesPassword
  · simp [hp]
  · rw [map_value_given (by simpa using hp) (h item hi), bne, BEq.comm]
    rcases item.isAccountId <;> rcases item.externalName == x <;>
      rcases isLeftOut request.subject item <;> simp [hp]

/-- Apart from the password's an attribute has what the items send there. -/
theorem get?_draft (hx : x ≠ passwordAttribute)
    (h : ∀ item ∈ items, resolver.isGiven request draws item) :
    (Draft.start.addAll request.subject.holder (resolver.given request draws) items).attributes.get?
      x = shared (((items.filter (sends request.subject x)).filter fun item =>
        !item.isAccountId).map (sentValue request)) := by
  rw [← filterMap_share? x h, Draft.get?_addAll_shared hx]

theorem mappingFor_eq_ok : mappingFor request = .ok mapping ↔
    request.resource.mapping? request.subject.kind = some mapping ∧
      mapping.validate request.resource.key request.subject.kind = .ok () := by
  rw [mappingFor]
  rcases request.resource.mapping? request.subject.kind with _ | m
  · simp
  · simp only [Option.some.injEq]
    rcases hv : m.validate request.resource.key request.subject.kind with e | _
    · simp only [reduceCtorEq, false_iff, not_and]
      rintro rfl
      rw [hv]
      simp
    · simp only [Except.ok.injEq]
      exact ⟨fun h => ⟨h, h ▸ hv⟩, fun h => h.1⟩

/-- What there is to a resolution that succeeds. -/
theorem exists_of_resolve {r : Resolution} (h : resolver.resolve request draws = .ok r) :
    ∃ mapping idItem, request.resource.mapping? request.subject.kind = some mapping ∧
      mapping.items.filter MappingItem.isAccountId = [idItem] ∧
      (∀ item ∈ mapping.propagationItems, resolver.isGiven request draws item) ∧
      r = finish request mapping (Draft.start.addAll request.subject.holder
        (resolver.given request draws) mapping.propagationItems) := by
  obtain ⟨mapping, hm, hdraft⟩ := bind_eq_ok.1 h
  obtain ⟨hmapping, hvalid⟩ := mappingFor_eq_ok.1 hm
  obtain ⟨idItem, hid⟩ := List.length_eq_one_iff.1 (Mapping.length_accountIds hvalid)
  refine ⟨mapping, idItem, hmapping, hid, ?_, eq_of_resolve hmapping h⟩
  by_contra hfault
  simp only [not_forall, exists_prop] at hfault
  obtain ⟨fault, hf⟩ := draft_error hfault
  rw [hf] at hdraft
  cases hdraft

end Drafts

section Attributes

variable {d : Draft} {idItem : MappingItem} {r : Resolution}

theorem accountIdItem?_of_filter (h : mapping.items.filter MappingItem.isAccountId = [idItem]) :
    mapping.accountIdItem? = some idItem := by
  rw [Mapping.accountIdItem?, ← List.head?_filter, h]
  rfl

theorem accountIdAttribute?_eq (hid : mapping.accountIdItem? = some idItem) :
    accountIdAttribute? mapping =
      if idItem.externalName = uidAttribute then none else some idItem.externalName := by
  rw [accountIdAttribute?, hid]
  rfl

/-- All attributes but those of the account id, the name and the markers are those of the draft. -/
theorem get?_finish (hid : mapping.accountIdItem? = some idItem)
    (hx : x ∉ [idItem.externalName, nameAttribute, missingMarker, emptyMarker]) :
    (finish request mapping d).attributes.get? x = d.attributes.get? x := by
  simp only [List.mem_cons, List.not_mem_nil, or_false, not_or] at hx
  obtain ⟨hitem, hname, hmissing, hempty⟩ := hx
  simp only [finish, accountIdAttribute?_eq hid]
  rw [get?_listIfAny_of_ne hempty, get?_listIfAny_of_ne hmissing, get?_setIfAny_of_ne hname]
  split_ifs
  · rfl
  · exact get?_setIfAny_of_ne hitem

/-- For every name but those of the account id, the object's name, the password and the markers, a
resolution has an attribute exactly if items send something there. The value of one item is sent as
the array of its values if it is multi-valued, else as the first of them, or as null; of several
items all that they send is united in the order of the items, each value where it comes first. -/
theorem resolve_attributes (resolver : Resolver) (request : ResolutionRequest) (draws : Draws)
    (h : resolver.resolve request draws = .ok r) :
    ∃ mapping idItem, request.resource.mapping? request.subject.kind = some mapping ∧
      mapping.items.filter MappingItem.isAccountId = [idItem] ∧
      ∀ x, x ∉ [idItem.externalName, nameAttribute, passwordAttribute, missingMarker, emptyMarker] →
        let sending := mapping.propagationItems.filter (sends request.subject x)
        (r.attributes.has x ↔ sending ≠ []) ∧
        (∀ item, sending = [item] → r.attributes.get? x =
          some (if isMultivalued request.subject item then .array (itemValues request item)
            else (itemValues request item).headD .null)) ∧
        (2 ≤ sending.length → r.attributes.get? x =
          some (.array (firsts (sending.flatMap (sentValues request))))) := by
  obtain ⟨mapping, idItem, hm, hone, hgiven, rfl⟩ := exists_of_resolve h
  refine ⟨mapping, idItem, hm, hone, ?_⟩
  intro x hx sending
  simp only [List.mem_cons, List.not_mem_nil, or_false, not_or] at hx
  obtain ⟨hitem, hname, hpassword, hmissing, hempty⟩ := hx
  -- The one account id item sends elsewhere.
  have hsending : (sending.filter fun item => !item.isAccountId) = sending := by
    refine List.filter_eq_self.2 fun item hi => ?_
    obtain ⟨hmem, hsends⟩ := List.mem_filter.1 hi
    rw [sends, Bool.and_eq_true, Bool.and_eq_true, beq_iff_eq] at hsends
    rcases ha : item.isAccountId with _ | _
    · rfl
    · have hid : item ∈ mapping.items.filter MappingItem.isAccountId :=
        List.mem_filter.2 ⟨(List.mem_filter.1 hmem).1, ha⟩
      obtain rfl : item = idItem := List.mem_singleton.1 (hone ▸ hid)
      exact absurd hsends.1.1.symm hitem
  have hget : (finish request mapping (Draft.start.addAll request.subject.holder
      (resolver.given request draws) mapping.propagationItems)).attributes.get? x =
        shared (sending.map (sentValue request)) := by
    rw [get?_finish (accountIdItem?_of_filter hone) (by simp [hitem, hname, hmissing, hempty]),
      get?_draft hpassword hgiven, hsending]
  refine ⟨?_, fun item hone => ?_, fun htwo => ?_⟩
  · rw [AttributeSet.has, hget]
    rcases sending with _ | ⟨item, rest⟩ <;> simp [shared]
  · rw [hget, hone]
    rfl
  · rw [hget, shared_of_two (by simpa using htwo), List.flatMap_map]
    simp only [values_sentValue]

/-- A user with attributes of all sorts. The groups are about to change, and the lock may not be
written to. -/
def fullUser : User :=
  { User.bare ⟨7⟩ "ann" with
    attributes := {
      plain := [⟨{ PlainSchema.single "mail" .string with multivalue := true },
          [.string "a@x", .string "b@x"]⟩,
        ⟨.single "room" .long, [.long 42]⟩]
      derived := [⟨"sign", "$\x7busername\x7d-$\x7broom\x7d"⟩]
      virtual := [⟨⟨"quota", false, false⟩, some ["5"]⟩, ⟨⟨"groups", true, false⟩, none⟩,
        ⟨⟨"lock", false, true⟩, some ["on"]⟩] }
    memberships := [.bare ⟨1⟩ { Role.bare ⟨2⟩ "staff" with
        owner := some (.user "bob"), attributes := .addPlain .none (.string "cost" "k1") },
      .bare ⟨3⟩ { Role.bare ⟨4⟩ "ann" with attributes := .addPlain .none (.string "cost" "k2") }] }

/-- The request to create that user. -/
def fullRequest : ResolutionRequest :=
  { annRequest with subject := .user fullUser, changes := ⟨[("groups", ["x", "y"])], []⟩ }

/-- A mapping with items of all kinds, three of which share an attribute. -/
def fullMapping : Mapping where
  objectClass := "person"
  items := [{ MappingItem.simple "username" .username "uid" with isAccountId := true },
    .simple "mail" (.attributeOf .user .plain) "mail",
    .simple "room" (.attributeOf .user .plain) "room",
    .simple "fax" (.attributeOf .user .plain) "fax",
    .simple "sign" (.attributeOf .user .derived) "sign",
    .simple "quota" (.attributeOf .user .virtual) "quota",
    .simple "groups" (.attributeOf .user .virtual) "groups",
    .simple "lock" (.attributeOf .user .virtual) "lock",
    .simple "cost" (.attributeOf .role .plain) "cost",
    .simple "id" (.idOf .user) "id",
    .simple "name" .roleName "cn", .simple "username" .username "cn",
    .simple "mail" (.attributeOf .user .plain) "cn",
    .simple "owner" .roleOwner "owner",
    { MappingItem.simple "room" (.attributeOf .user .plain) "phone" with
      purpose := .synchronization },
    .forPassword]

/-- Items of all kinds are sent, the read-only lock and what is for synchronization apart. -/
theorem resolve_attributes_fullUser :
    ∃ r, Resolver.resolve ⟨0, none, none⟩ (fullRequest.withMapping fullMapping) (.ofSeed 0) = .ok r ∧
      r.attributes.get? "mail" = some (.array [.string "a@x", .string "b@x"]) ∧
      r.attributes.get? "room" = some (.integer 42) ∧
      r.attributes.get? "fax" = some .null ∧
      r.attributes.get? "sign" = some (.string "ann-42") ∧
      r.attributes.get? "quota" = some (.string "5") ∧
      r.attributes.get? "groups" = some (.array [.string "x", .string "y"]) ∧
      r.attributes.get? "cost" = some (.array [.string "k1", .string "k2"]) ∧
      r.attributes.get? "id" = some (.string "00000000-0000-0000-0000-000000000007") ∧
      r.attributes.get? "owner" = some (.array [.string "bob"]) ∧
      r.attributes.get? "cn" =
        some (.array [.string "staff", .string "ann", .string "a@x", .string "b@x"]) ∧
      r.attributes.has "lock" = false ∧ r.attributes.has "phone" = false := by
  refine ⟨_, rfl, ?_⟩
  obtain ⟨mapping, idItem, hm, hone, hall⟩ :=
    resolve_attributes ⟨0, none, none⟩ (fullRequest.withMapping fullMapping) (.ofSeed 0) rfl
  obtain rfl : fullMapping = mapping := Option.some.inj hm
  obtain rfl : fullMapping.items.head (by decide) = idItem := (List.cons.inj hone).1
  refine ⟨(hall "mail" (by decide)).2.1 _ rfl, (hall "room" (by decide)).2.1 _ rfl,
    (hall "fax" (by decide)).2.1 _ rfl, (hall "sign" (by decide)).2.1 _ rfl,
    (hall "quota" (by decide)).2.1 _ rfl, (hall "groups" (by decide)).2.1 _ rfl,
    (hall "cost" (by decide)).2.1 _ rfl, (hall "id" (by decide)).2.1 _ rfl,
    (hall "owner" (by decide)).2.1 _ rfl, (hall "cn" (by decide)).2.2 (by decide), ?_, ?_⟩
  · simpa using (hall "lock" (by decide)).1.not.2 (by decide)
  · simpa using (hall "phone" (by decide)).1.not.2 (by decide)

end Attributes

end Resolver

end Provisioning
