import Provisioning.Proofs.Collections
import Provisioning.Proofs.Tables
import Provisioning.Resolution.Dates

/-!
# The order of the items of a mapping

Each item of a mapping leaves its mark on the account id, on the lists of mandatory attributes
without a value and on the attributes, whatever the other items are. In another order of the items
the account id stays the same, as one item alone gives it, the lists have the same names
(`missing_addAll`, `empty_addAll`), and under each attribute the values are alike
(`get?_addAll_perm`). So a resolution succeeds or fails whatever the order, and what it comes to is
the same up to the order of values (`resolve_perm`).
-/

namespace Provisioning

theorem AttributeSet.get?_merge {s : AttributeSet} {name x : String} {value : AttributeValue} :
    (s.merge name value).get? x =
      if x = name then some (((s.get? x).map fun there => there.union value).getD value)
      else s.get? x := by
  unfold merge
  by_cases hx : x = name
  · subst hx
    rcases s.get? x with _ | there <;> rw [get?_set, if_pos rfl, if_pos rfl] <;> rfl
  · rcases s.get? name with _ | there <;> rw [get?_set, if_neg hx, if_neg hx]

/-- Sets that have the same names, with values alike under each. -/
def AttributeSet.Like (s t : AttributeSet) : Prop :=
  ∀ x, Option.Rel (fun v w => AttributeValue.Alike v.values w.values) (s.get? x) (t.get? x)

namespace AttributeSet.Like

variable {s t : AttributeSet} {v w : AttributeValue} {name x : String}

theorem has (h : s.Like t) (x : String) : s.has x = t.has x := by
  have hx := h x
  rw [AttributeSet.has, AttributeSet.has]
  generalize s.get? x = v, t.get? x = w at hx
  rcases hx with _ | _ <;> rfl

theorem equivalent (h : s.Like t) (hv : s.get? x = some v) (hw : t.get? x = some w) :
    v.equivalent w := by
  have hx := h x
  rw [hv, hw, Option.rel_some_some] at hx
  exact hx.equivalent

theorem set (h : s.Like t) (hv : AttributeValue.Alike v.values w.values) :
    (s.set name v).Like (t.set name w) := by
  intro x
  rw [get?_set, get?_set]
  split_ifs
  · exact .some hv
  · exact h x

theorem setIfAny {value : Option String} (h : s.Like t) :
    (Resolver.setIfAny name value s).Like (Resolver.setIfAny name value t) := by
  rcases value with _ | v
  · exact h
  · exact h.set (.refl _)

theorem listIfAny {names names' : List String} (h : s.Like t) (hn : names.Perm names') :
    (Resolver.listIfAny name names s).Like (Resolver.listIfAny name names' t) := by
  have hempty : names.isEmpty = names'.isEmpty := by
    rw [Bool.eq_iff_iff, List.isEmpty_iff_length_eq_zero, List.isEmpty_iff_length_eq_zero,
      hn.length_eq]
  unfold Resolver.listIfAny
  rw [hempty]
  split_ifs
  · exact h
  · refine h.set ?_
    have hsingle : ∀ texts : List String, (AttributeValue.strings texts).values =
        texts.map AttributeValue.string := fun texts =>
      AttributeValue.valuesOf_of_single (List.forall_mem_map.2 fun _ _ => rfl)
    rw [hsingle, hsingle]
    exact .of_perm (hn.map _)

end AttributeSet.Like

namespace Resolver

/-- What each item gives, nothing for one that is left out. -/
abbrev Giving := MappingItem → Option Contribution

namespace Draft

variable {d : Draft} {holder : Holder} {item : MappingItem} {give : Giving}
  {items items' : List MappingItem} {x : String}

/-- Takes in what all items give. -/
def addAll (d : Draft) (holder : Holder) (give : Giving) (items : List MappingItem) : Draft :=
  items.foldl (fun d item => d.add holder item (give item)) d

/-- The account id after an item. -/
def idAfter (give : Giving) (id : Option String) (item : MappingItem) : Option String :=
  match give item with
  | some c => if item.isAccountId then c.values.head?.bind AttributeValue.text? else id
  | none => id

/-- The name under which an item without a value is listed, if that is there or not. -/
def listed? (holder : Holder) (give : Giving) (present : Bool) (item : MappingItem) :
    Option String :=
  match give item with
  | some c =>
    if c.values.isEmpty && holder.satisfies item.mandatoryCondition && c.present == present then
      some item.externalName
    else none
  | none => none

/-- The value under a name after an item. -/
def valueAfter (x : String) (give : Giving) (v : Option AttributeValue) (item : MappingItem) :
    Option AttributeValue :=
  match give item with
  | some c =>
    if item.isAccountId then v
    else if item.givesPassword then if x = passwordAttribute then c.values.head?.or v else v
    else if x = item.externalName then
      some ((v.map fun there => there.union (value c)).getD (value c))
    else v
  | none => v

theorem take_missing {c : Contribution} : (d.take item c).missing = d.missing := by
  unfold take
  split_ifs
  · rfl
  · split <;> rfl
  · rfl

theorem take_empty {c : Contribution} : (d.take item c).empty = d.empty := by
  unfold take
  split_ifs
  · rfl
  · split <;> rfl
  · rfl

theorem mark_accountId {c : Contribution} : (d.mark holder item c).accountId = d.accountId := by
  unfold mark
  split_ifs <;> rfl

theorem mark_attributes {c : Contribution} : (d.mark holder item c).attributes = d.attributes := by
  unfold mark
  split_ifs <;> rfl

theorem accountId_add :
    (d.add holder item (give item)).accountId = idAfter give d.accountId item := by
  unfold idAfter
  rcases give item with _ | c
  · rfl
  · rw [add, take]
    split_ifs
    · rfl
    · split <;> exact mark_accountId
    · exact mark_accountId

theorem missing_add : (d.add holder item (give item)).missing =
    d.missing ++ (listed? holder give false item).toList := by
  unfold listed?
  rcases give item with _ | c
  · exact (List.append_nil _).symm
  · dsimp only
    rw [add, take_missing, mark]
    generalize (c.values.isEmpty && holder.satisfies item.mandatoryCondition) = isMandatory
    generalize c.present = present
    rcases isMandatory <;> rcases present <;> simp

theorem empty_add : (d.add holder item (give item)).empty =
    d.empty ++ (listed? holder give true item).toList := by
  unfold listed?
  rcases give item with _ | c
  · exact (List.append_nil _).symm
  · dsimp only
    rw [add, take_empty, mark]
    generalize (c.values.isEmpty && holder.satisfies item.mandatoryCondition) = isMandatory
    generalize c.present = present
    rcases isMandatory <;> rcases present <;> simp

theorem get?_add : (d.add holder item (give item)).attributes.get? x =
    valueAfter x give (d.attributes.get? x) item := by
  unfold valueAfter
  rcases give item with _ | c
  · rfl
  · dsimp only [add, take]
    by_cases hid : item.isAccountId
    · rw [if_pos hid, if_pos hid, mark_attributes]
    · rw [if_neg hid, if_neg hid]
      by_cases hp : item.givesPassword
      · rw [if_pos hp, if_pos hp]
        rcases c.values.head? with _ | clear
        · simp [mark_attributes]
        · simp only [AttributeSet.get?_set, mark_attributes, Option.some_or]
      · rw [if_neg hp, if_neg hp, AttributeSet.get?_merge, mark_attributes]

theorem addAll_cons : d.addAll holder give (item :: items) =
    (d.add holder item (give item)).addAll holder give items :=
  rfl

theorem accountId_addAll : ∀ {items : List MappingItem} {d : Draft},
    (d.addAll holder give items).accountId = items.foldl (idAfter give) d.accountId
  | [], _ => rfl
  | item :: items, d => by rw [addAll_cons, accountId_addAll, accountId_add, List.foldl_cons]

theorem get?_addAll : ∀ {items : List MappingItem} {d : Draft},
    (d.addAll holder give items).attributes.get? x =
      items.foldl (valueAfter x give) (d.attributes.get? x)
  | [], _ => rfl
  | item :: items, d => by rw [addAll_cons, get?_addAll, get?_add, List.foldl_cons]

theorem missing_addAll : ∀ {items : List MappingItem} {d : Draft},
    (d.addAll holder give items).missing = d.missing ++ items.filterMap (listed? holder give false)
  | [], d => (List.append_nil d.missing).symm
  | item :: items, d => by
    rw [addAll_cons, missing_addAll, missing_add, List.append_assoc, List.filterMap_cons]
    rcases listed? holder give false item <;> rfl

theorem empty_addAll : ∀ {items : List MappingItem} {d : Draft},
    (d.addAll holder give items).empty = d.empty ++ items.filterMap (listed? holder give true)
  | [], d => (List.append_nil d.empty).symm
  | item :: items, d => by
    rw [addAll_cons, empty_addAll, empty_add, List.append_assoc, List.filterMap_cons]
    rcases listed? holder give true item <;> rfl

/-- One item alone gives the account id, so that the order does not matter. -/
theorem accountId_addAll_perm (h : items.Perm items')
    (hone : (items.filter MappingItem.isAccountId).length ≤ 1) :
    (d.addAll holder give items).accountId = (d.addAll holder give items').accountId := by
  rw [accountId_addAll, accountId_addAll]
  refine h.foldl_eq' (fun i hi j hj id => ?_) _
  by_cases hij : i.isAccountId ∧ j.isAccountId
  · obtain rfl : i = j := by
      have hmem {k : MappingItem} (hk : k ∈ items) (hkid : k.isAccountId) :
          k ∈ items.filter MappingItem.isAccountId := List.mem_filter.2 ⟨hk, hkid⟩
      obtain ⟨k, hk⟩ : ∃ k, items.filter MappingItem.isAccountId = [k] :=
        List.length_eq_one_iff.1 (Nat.le_antisymm hone (List.length_pos_of_mem (hmem hi hij.1)))
      exact (List.mem_singleton.1 (hk ▸ hmem hi hij.1)).trans
        (List.mem_singleton.1 (hk ▸ hmem hj hij.2)).symm
    rfl
  · unfold idAfter
    rcases give i with _ | c <;> rcases give j with _ | c' <;> try rfl
    split_ifs with hj hi hi <;> first | rfl | exact absurd ⟨hi, hj⟩ hij

/-- What an item shares in the value under a name. -/
def share? (x : String) (give : Giving) (item : MappingItem) : Option AttributeValue :=
  if item.isAccountId || item.givesPassword || x != item.externalName then none
  else (give item).map value

/-- Apart from the password's the value under a name is that of all shares together. -/
theorem foldl_valueAfter (hx : x ≠ passwordAttribute) : ∀ {items : List MappingItem}
    {vs : List AttributeValue},
    items.foldl (valueAfter x give) (AttributeValue.shared vs) =
      AttributeValue.shared (vs ++ items.filterMap (share? x give))
  | [], vs => by rw [List.filterMap_nil, List.append_nil]; rfl
  | item :: items, vs => by
    have hstep : valueAfter x give (AttributeValue.shared vs) item =
        AttributeValue.shared (vs ++ (share? x give item).toList) := by
      unfold valueAfter share?
      rcases give item with _ | c
      · simp
      · by_cases hid : item.isAccountId
        · simp [hid]
        · by_cases hp : item.givesPassword
          · simp [hid, hp, hx]
          · by_cases hname : x = item.externalName
            · rcases vs with _ | ⟨v, vs⟩ <;> simp [hid, hp, ← hname, AttributeValue.shared]
            · simp [hid, hp, hname]
    rw [List.foldl_cons, hstep, foldl_valueAfter hx, List.filterMap_cons, List.append_assoc]
    rcases share? x give item <;> rfl

/-- The order in which the password comes does not matter when all password items give the same. -/
theorem foldl_valueAfter_password (h : items.Perm items') {v : Option AttributeValue}
    (hpassword : ∀ item ∈ items, item.externalName = passwordAttribute → item.givesPassword)
    (hsame : ∀ i ∈ items, ∀ j ∈ items, i.givesPassword → j.givesPassword → give i = give j) :
    items.foldl (valueAfter passwordAttribute give) v =
      items'.foldl (valueAfter passwordAttribute give) v := by
  have hfree {i : MappingItem} (hi : i ∈ items) (hp : ¬ i.givesPassword)
      (v : Option AttributeValue) : valueAfter passwordAttribute give v i = v := by
    have hname : passwordAttribute ≠ i.externalName := fun hn => hp (hpassword i hi hn.symm)
    unfold valueAfter
    rcases give i with _ | c <;> simp [hp, hname]
  refine h.foldl_eq' (fun i hi j hj v => ?_) v
  by_cases hpi : i.givesPassword
  · by_cases hpj : j.givesPassword
    · unfold valueAfter
      rw [hsame i hi j hj hpi hpj]
      rcases give j with _ | c
      · rfl
      · simp only [hpi, hpj]
        split_ifs <;> rfl
    · rw [hfree hj hpj, hfree hj hpj]
  · rw [hfree hi hpi, hfree hi hpi]

theorem get?_addAll_perm (h : items.Perm items')
    (hpassword : ∀ item ∈ items, item.externalName = passwordAttribute → item.givesPassword)
    (hsame : ∀ i ∈ items, ∀ j ∈ items, i.givesPassword → j.givesPassword → give i = give j) :
    Option.Rel (fun v w => AttributeValue.Alike v.values w.values)
      ((start.addAll holder give items).attributes.get? x)
      ((start.addAll holder give items').attributes.get? x) := by
  rw [get?_addAll, get?_addAll]
  by_cases hx : x = passwordAttribute
  · subst hx
    rw [foldl_valueAfter_password h hpassword hsame]
    rcases items'.foldl (valueAfter passwordAttribute give) _ with _ | v
    · exact .none
    · exact .some (.refl _)
  · have hshared := AttributeValue.shared_perm (h.filterMap (share? x give))
    rwa [← List.nil_append (items.filterMap _), ← List.nil_append (items'.filterMap _),
      ← foldl_valueAfter hx, ← foldl_valueAfter hx] at hshared

end Draft

section Runs

variable {resolver : Resolver} {request : ResolutionRequest} {draws : Draws}
  {items items' : List MappingItem} {d : Draft} {m m' : Mapping}

/-- What each item gives in a resolution. -/
def given (resolver : Resolver) (request : ResolutionRequest) (draws : Draws) : Giving :=
  fun item =>
  match resolver.itemContribution request draws item with
  | .ok c => c
  | .error _ => none

theorem given_of_ok {item : MappingItem} {c : Option Contribution}
    (h : resolver.itemContribution request draws item = .ok c) :
    resolver.given request draws item = c := by
  rw [given, h]

theorem given_password {i j : MappingItem} (hi : i.givesPassword) (hj : j.givesPassword) :
    resolver.given request draws i = resolver.given request draws j := by
  rw [given, given, itemContribution, itemContribution, if_pos hi, if_pos hj]

/-- Whether there is no fault in what an item gives. -/
def isGiven (resolver : Resolver) (request : ResolutionRequest) (draws : Draws)
    (item : MappingItem) : Prop :=
  ∃ c, resolver.itemContribution request draws item = .ok c

/-- Takes in one item after others. -/
def takeIn (resolver : Resolver) (request : ResolutionRequest) (draws : Draws) (d : Draft)
    (item : MappingItem) : Except Fault Draft := do
  return d.add request.subject.holder item (← resolver.itemContribution request draws item)

theorem foldlM_takeIn : ∀ {items : List MappingItem} {d : Draft},
    (∀ item ∈ items, resolver.isGiven request draws item) →
      items.foldlM (resolver.takeIn request draws) d =
        .ok (d.addAll request.subject.holder (resolver.given request draws) items)
  | [], _, _ => rfl
  | item :: items, d, h => by
    obtain ⟨c, hc⟩ := h item List.mem_cons_self
    rw [List.foldlM_cons, takeIn, hc, Draft.addAll_cons, given_of_ok hc]
    exact foldlM_takeIn fun i hi => h i (List.mem_cons_of_mem item hi)

theorem foldlM_takeIn_error : ∀ {items : List MappingItem} {d : Draft},
    (∃ item ∈ items, ¬ resolver.isGiven request draws item) →
      ∃ e, items.foldlM (resolver.takeIn request draws) d = .error e
  | [], _, h => absurd h (by simp)
  | item :: items, d, h => by
    rw [List.foldlM_cons, takeIn]
    rcases hc : resolver.itemContribution request draws item with e | c
    · exact ⟨e, rfl⟩
    · obtain ⟨i, hi, hfault⟩ := h
      rcases List.mem_cons.1 hi with rfl | hi
      · exact absurd ⟨c, hc⟩ hfault
      · exact foldlM_takeIn_error ⟨i, hi, hfault⟩

/-- All items are taken in when none has a fault. -/
theorem draft_ok (h : ∀ item ∈ items, resolver.isGiven request draws item) :
    resolver.draft request draws items =
      .ok (Draft.start.addAll request.subject.holder (resolver.given request draws) items) :=
  foldlM_takeIn h

/-- One fault is enough. -/
theorem draft_error (h : ∃ item ∈ items, ¬ resolver.isGiven request draws item) :
    ∃ e, resolver.draft request draws items = .error e :=
  foldlM_takeIn_error h

theorem canTakeAll_eq : ∀ {items : List MappingItem},
    (∀ item ∈ items, resolver.isGiven request draws item) →
      resolver.canTakeAll request draws items =
        ((items.all fun item => (resolver.given request draws item).all (canTake request item)) &&
          (request.resource.accountLink.isNone || request.subject.holder.isPrintable))
  | [], _ => rfl
  | item :: items, h => by
    obtain ⟨c, hc⟩ := h item List.mem_cons_self
    rw [canTakeAll, hc, List.all_cons, given_of_ok hc,
      canTakeAll_eq fun i hi => h i (List.mem_cons_of_mem item hi)]
    rcases c with _ | c
    · rfl
    · exact (Bool.and_assoc _ _ _).symm

end Runs

end Resolver

/-- The resource with another mapping for a kind of subject. -/
def Resource.withMapping (r : Resource) (m : Mapping) : SubjectKind → Resource
  | .user => { r with userMapping := some m }
  | .role => { r with roleMapping := some m }
  | .membership => { r with membershipMapping := some m }

/-- The request with another mapping for its subject. -/
def ResolutionRequest.withMapping (r : ResolutionRequest) (m : Mapping) : ResolutionRequest :=
  { r with resource := r.resource.withMapping m r.subject.kind }

/-- Resolutions that are the same up to the order of values. -/
structure Resolution.Like (r r' : Resolution) : Prop where
  accountId : r.accountId = r'.accountId
  name : r.name = r'.name
  names : ∀ x, r.attributes.has x = r'.attributes.has x
  values : ∀ x v w, r.attributes.get? x = some v → r'.attributes.get? x = some w → v.equivalent w

namespace Mapping

variable {m m' : Mapping} {resource : String} {kind : SubjectKind}

theorem validate_perm (h : m.items.Perm m'.items) :
    m.validate resource kind = m'.validate resource kind := by
  simp only [validate, (h.filter _).length_eq]

theorem length_accountIds (h : m.validate resource kind = .ok ()) :
    (m.items.filter MappingItem.isAccountId).length = 1 := by
  by_contra hne
  rw [validate, if_pos hne] at h
  cases h

/-- There is one account id item to be found, wherever it stands. -/
theorem accountIdItem?_perm (h : m.items.Perm m'.items)
    (hone : (m.items.filter MappingItem.isAccountId).length = 1) :
    m.accountIdItem? = m'.accountIdItem? := by
  obtain ⟨item, hitem⟩ := List.length_eq_one_iff.1 hone
  have hitem' := h.filter MappingItem.isAccountId
  rw [hitem, List.singleton_perm] at hitem'
  rw [accountIdItem?, accountIdItem?, ← List.head?_filter, ← List.head?_filter, hitem, hitem']

end Mapping

namespace Resolver

variable {resolver : Resolver} {request : ResolutionRequest} {draws : Draws} {item : MappingItem}
  {m m' : Mapping} {d d' : Draft}

theorem virtualContribution_congr {request' : ResolutionRequest} {name : String}
    (hs : request'.subject = request.subject) (hc : request'.changes = request.changes) :
    ∀ {holders : List Holder} {sum : Contribution},
      virtualContribution request' name sum holders = virtualContribution request name sum holders
  | [], _ => rfl
  | h :: holders, sum => by
    have hvalues : virtualValues request' h name = virtualValues request h name := by
      funext a
      rw [virtualValues, virtualValues, hs, hc]
    simp only [virtualContribution, hvalues, virtualContribution_congr hs hc]

/-- What an item other than a password's gives depends on the subject and the changes under way
alone. -/
theorem contribution_congr {request' : ResolutionRequest} (hs : request'.subject = request.subject)
    (hc : request'.changes = request.changes) :
    contribution request' item = contribution request item := by
  simp only [contribution, virtualContribution_congr hs hc, hs]

theorem password_withMapping :
    resolver.password (request.withMapping m) draws = resolver.password request draws := by
  obtain ⟨s, _, _, _, _⟩ := request
  rcases s with u | r | m <;> rfl

/-- What an item gives does not depend on the mapping that it is in. -/
theorem itemContribution_withMapping :
    resolver.itemContribution (request.withMapping m) draws item =
      resolver.itemContribution request draws item := by
  have hitem : contribution (request.withMapping m) item = contribution request item :=
    contribution_congr rfl rfl
  rw [itemContribution, itemContribution, hitem, passwordContribution, passwordContribution,
    password_withMapping]
  rfl

theorem draft_withMapping {items : List MappingItem} :
    resolver.draft (request.withMapping m) draws items = resolver.draft request draws items := by
  simp only [draft, itemContribution_withMapping]
  rfl

theorem canTakeAll_withMapping : ∀ {items : List MappingItem},
    resolver.canTakeAll (request.withMapping m) draws items =
      resolver.canTakeAll request draws items
  | [] => by
    obtain ⟨s, _, _, _, _⟩ := request
    rcases s with u | r | m <;> rfl
  | item :: items => by
    have htake : canTake (request.withMapping m) = canTake request := rfl
    simp only [canTakeAll, itemContribution_withMapping, htake, canTakeAll_withMapping]

theorem mappingFor_withMapping : mappingFor (request.withMapping m) =
    match m.validate request.resource.key request.subject.kind with
    | .error e => .error (.mapping e)
    | .ok () => .ok m := by
  obtain ⟨s, _, _, _, _⟩ := request
  rcases s with u | r | m <;> rfl

theorem resolve_invalid {e : MappingError}
    (h : m.validate request.resource.key request.subject.kind = .error e) :
    resolver.resolve (request.withMapping m) draws = .error (.mapping e) := by
  rw [resolve, mappingFor_withMapping, h]
  rfl

theorem resolve_eq_map (h : mappingFor request = .ok m) : resolver.resolve request draws =
    (resolver.draft request draws m.propagationItems).map (finish request m) := by
  rw [resolve, h]
  show (resolver.draft request draws m.propagationItems >>= fun d => _) = _
  rcases resolver.draft request draws m.propagationItems <;> rfl

theorem resolve_valid (h : m.validate request.resource.key request.subject.kind = .ok ()) :
    resolver.resolve (request.withMapping m) draws =
      (resolver.draft request draws m.propagationItems).map (finish (request.withMapping m) m) := by
  rw [resolve_eq_map (by rw [mappingFor_withMapping, h]), draft_withMapping]

theorem canResolve_valid (h : m.validate request.resource.key request.subject.kind = .ok ()) :
    resolver.canResolve (request.withMapping m) draws =
      resolver.canTakeAll request draws m.propagationItems := by
  rw [canResolve, mappingFor_withMapping, h]
  exact canTakeAll_withMapping

/-- Drafts that are the same up to the order of values end in resolutions that are. -/
theorem finish_like (hid : d.accountId = d'.accountId) (hmissing : d.missing.Perm d'.missing)
    (hempty : d.empty.Perm d'.empty) (hlike : d.attributes.Like d'.attributes)
    (hitem : m.accountIdItem? = m'.accountIdItem?) :
    (finish (request.withMapping m) m d).Like (finish (request.withMapping m') m' d') := by
  have hlink : (request.withMapping m).resource.accountLink =
      (request.withMapping m').resource.accountLink := by
    obtain ⟨s, _, _, _, _⟩ := request
    rcases s with u | r | m <;> rfl
  have hname : (finish (request.withMapping m) m d).name =
      (finish (request.withMapping m') m' d').name := by
    rw [finish, finish, hid, hlink]
    rfl
  have hattributes : (finish (request.withMapping m) m d).attributes.Like
      (finish (request.withMapping m') m' d').attributes := by
    have hname' := hname
    simp only [finish] at hname' ⊢
    rw [hname']
    refine ((AttributeSet.Like.setIfAny ?_).listIfAny hmissing).listIfAny hempty
    rw [hid, accountIdAttribute?, accountIdAttribute?, hitem]
    split
    · exact hlike.setIfAny
    · exact hlike
  refine ⟨by rw [finish, finish, hid], hname, hattributes.has, fun x v w hv hw => ?_⟩
  exact hattributes.equivalent hv hw

/-- What several items come to does not depend on their order. -/
theorem addAll_perm {items items' : List MappingItem} (h : items.Perm items')
    (hone : (items.filter MappingItem.isAccountId).length ≤ 1)
    (hpassword : ∀ item ∈ items, item.externalName = passwordAttribute → item.givesPassword)
    (hitem : m.accountIdItem? = m'.accountIdItem?) :
    (finish (request.withMapping m) m (Draft.start.addAll request.subject.holder
        (resolver.given request draws) items)).Like
      (finish (request.withMapping m') m' (Draft.start.addAll request.subject.holder
        (resolver.given request draws) items')) := by
  refine finish_like (Draft.accountId_addAll_perm h hone) ?_ ?_ (fun x => ?_) hitem
  · rw [Draft.missing_addAll, Draft.missing_addAll]
    exact (h.filterMap _).append_left _
  · rw [Draft.empty_addAll, Draft.empty_addAll]
    exact (h.filterMap _).append_left _
  · exact Draft.get?_addAll_perm h hpassword fun i _ j _ hi hj => given_password hi hj

/-- The order of the items decides at most on the order of values. -/
theorem resolve_perm (resolver : Resolver) (request : ResolutionRequest) (draws : Draws)
    (hperm : m.items.Perm m'.items)
    (hpassword : ∀ item ∈ m.items, item.externalName = passwordAttribute → item.givesPassword) :
    (∃ r r', resolver.resolve (request.withMapping m) draws = .ok r ∧
        resolver.resolve (request.withMapping m') draws = .ok r' ∧ r.Like r' ∧
        resolver.canResolve (request.withMapping m) draws =
          resolver.canResolve (request.withMapping m') draws) ∨
      (∃ e e', resolver.resolve (request.withMapping m) draws = .error e ∧
        resolver.resolve (request.withMapping m') draws = .error e') := by
  have hvalidate : m.validate request.resource.key request.subject.kind =
      m'.validate request.resource.key request.subject.kind := Mapping.validate_perm hperm
  rcases hv : m.validate request.resource.key request.subject.kind with e | _
  · exact .inr ⟨_, _, resolve_invalid hv, resolve_invalid (hvalidate ▸ hv)⟩
  have hv' := hvalidate ▸ hv
  have hone := Mapping.length_accountIds hv
  have hitems : m.propagationItems.Perm m'.propagationItems := hperm.filter _
  rw [resolve_valid hv, resolve_valid hv', canResolve_valid hv, canResolve_valid hv']
  by_cases hgiven : ∀ item ∈ m.propagationItems, resolver.isGiven request draws item
  · have hgiven' : ∀ item ∈ m'.propagationItems, resolver.isGiven request draws item :=
      fun item hi => hgiven item (hitems.mem_iff.2 hi)
    rw [draft_ok hgiven, draft_ok hgiven', canTakeAll_eq hgiven, canTakeAll_eq hgiven',
      hitems.all_eq]
    refine .inl ⟨_, _, rfl, rfl, addAll_perm hitems ?_ ?_ ?_, rfl⟩
    · exact hone ▸ (List.filter_sublist.filter _).length_le
    · exact fun item hi => hpassword item (List.mem_filter.1 hi).1
    · exact Mapping.accountIdItem?_perm hperm hone
  · simp only [not_forall] at hgiven
    obtain ⟨item, hi, hfault⟩ := hgiven
    obtain ⟨e, he⟩ := draft_error ⟨item, hi, hfault⟩
    obtain ⟨e', he'⟩ := draft_error ⟨item, hitems.mem_iff.1 hi, hfault⟩
    rw [he, he']
    exact .inr ⟨e, e', rfl, rfl⟩

/-- The user `ann`, who is in the role `staff`, to be created with the password `pw`. -/
def annRequest : ResolutionRequest where
  subject := .user { User.bare ⟨7⟩ "ann" with
    memberships := [.bare ⟨1⟩ (.bare ⟨2⟩ "staff"), .bare ⟨3⟩ (.bare ⟨4⟩ "ann")] }
  resource := .bare "directory" "ldap"
  operation := .create
  password := some "pw"
  changes := .none

/-- A mapping in which two items share an attribute and two mandatory ones find nothing. -/
def annMapping : Mapping where
  objectClass := "person"
  items := [{ MappingItem.simple "username" .username "uid" with isAccountId := true },
    .simple "username" .username "groups", .simple "name" .roleName "groups",
    { MappingItem.simple "mail" (.attributeOf .user .plain) "mail" with
      mandatoryCondition := "true" },
    { MappingItem.simple "fax" (.attributeOf .user .plain) "fax" with
      mandatoryCondition := "true" },
    .forPassword]

/-- The same items the other way round. -/
def annReversed : Mapping :=
  { annMapping with items := annMapping.items.reverse }

theorem resolve_perm_annReversed :
    ∃ r r', Resolver.resolve ⟨0, none, none⟩ (annRequest.withMapping annMapping) (.ofSeed 0) = .ok r ∧
      Resolver.resolve ⟨0, none, none⟩ (annRequest.withMapping annReversed) (.ofSeed 0) =
        .ok r' ∧
      r.Like r' ∧ r.attributes.names ≠ r'.attributes.names := by
  rcases resolve_perm ⟨0, none, none⟩ annRequest (.ofSeed 0)
    (show annMapping.items.Perm annReversed.items from (List.reverse_perm _).symm) (by decide)
    with ⟨r, r', hr, hr', hlike, -⟩ | ⟨e, e', he, -⟩
  · refine ⟨r, r', hr, hr', hlike, ?_⟩
    obtain rfl := Except.ok.inj (show Except.ok _ = Except.ok r from hr)
    obtain rfl := Except.ok.inj (show Except.ok _ = Except.ok r' from hr')
    decide
  · cases he

end Resolver

end Provisioning
