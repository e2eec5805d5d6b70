import Provisioning.Proofs.ResolvedAttributes

/-!
# When a resolution fails

Each item of a mapping is taken in by itself: whether there is a fault in what it gives has nothing
to do with the other items, and the fault of a resolution is that of the first item that has one
(`faultOf_resolve`). An item for a password has a fault where a password has to be made up and none
can be. One for a virtual attribute has a fault where a holder has unknown values that are not about
to change either, unless a holder before it leaves the item out (`faultOf_contribution`). No other
item has any. Together with the dates that have to be shown this tells when a resolution succeeds
(`resolve_ok_iff`).
-/

namespace Provisioning

theorem Keyed.lookup_eq_none_iff {κ α : Type} [DecidableEq κ] {key : κ} {entries : List (κ × α)} :
    entries.lookup key = none ↔ key ∉ keys entries := by
  rw [List.lookup_eq_none_iff, keys, List.mem_map, not_exists]
  exact forall_congr' fun entry => by rw [bne_iff_ne, not_and, ne_comm]

/-- The fault of what failed. -/
def faultOf {α : Type} : Except Fault α → Option Fault
  | .error fault => some fault
  | .ok _ => none

section FaultOf

variable {α : Type} {x : Except Fault α} {fault : Fault}

theorem faultOf_eq_none : faultOf x = none ↔ ∃ a, x = .ok a := by
  rcases x with f | a <;> simp [faultOf]

theorem faultOf_eq_some : faultOf x = some fault ↔ x = .error fault := by
  rcases x with f | a <;> simp [faultOf]

theorem faultOf_map {β : Type} {f : α → β} : faultOf (x.map f) = faultOf x := by
  rcases x with e | a <;> rfl

end FaultOf

namespace Resolver

variable {resolver : Resolver} {request : ResolutionRequest} {draws : Draws} {item : MappingItem}
  {items : List MappingItem} {mapping : Mapping} {name : String} {h : Holder} {fault : Fault}

section VirtualItems

/-- Whether a holder has known values under a name or, as the subject itself, new ones, or does not
have the attribute at all. -/
def HasValues (request : ResolutionRequest) (name : String) (h : Holder) : Prop :=
  ∀ a, h.virtual? name = some a → a.values.isSome ∨
    h.kind = request.subject.kind ∧
      (name ∈ Keyed.keys request.changes.toUpdate ∨ name ∈ request.changes.toRemove)

/-- The holders whose values an item reads for a virtual attribute: those before the first one to
which it may not be written. -/
def holdersRead (subject : Subject) (item : MappingItem) : List Holder :=
  match item.internalKind with
  | .attributeOf owner .virtual =>
    (subject.related owner).takeWhile fun h => !h.isReadOnly item.internalName
  | _ => []

/-- The fault in reading a virtual attribute of a holder. -/
def holderFault? (request : ResolutionRequest) (name : String) (h : Holder) : Option Fault :=
  (h.virtual? name).bind fun a => faultOf (virtualValues request h name a)

theorem pending?_eq_none {c : VirtualChanges} :
    c.pending? name = none ↔ ¬(name ∈ Keyed.keys c.toUpdate ∨ name ∈ c.toRemove) := by
  rw [VirtualChanges.pending?]
  by_cases hremove : name ∈ c.toRemove
  · simp [hremove]
  · simp only [List.contains_eq_mem, hremove, decide_false, Bool.false_eq_true, if_false, or_false]
    exact Keyed.lookup_eq_none_iff

theorem faultOf_virtualValues {a : VirtualAttribute} :
    faultOf (virtualValues request h name a) = some fault ↔
      a.values = none ∧ ¬(h.kind = request.subject.kind ∧
        (name ∈ Keyed.keys request.changes.toUpdate ∨ name ∈ request.changes.toRemove)) ∧
      fault = .cacheConsistency (word h.kind ++ " " ++ h.key.text) name := by
  have hpending : (if h.kind = request.subject.kind then request.changes.pending? name else none) =
      none ↔ ¬(h.kind = request.subject.kind ∧
        (name ∈ Keyed.keys request.changes.toUpdate ∨ name ∈ request.changes.toRemove)) := by
    rw [not_and, ← pending?_eq_none]
    split_ifs with hown <;> simp [hown]
  rw [← hpending, virtualValues]
  generalize (if h.kind = request.subject.kind then request.changes.pending? name else none) =
    pending, a.values = known
  rcases pending with _ | _ <;> rcases known with _ | _ <;> simp [faultOf, eq_comm]

theorem holderFault?_eq_some : holderFault? request name h = some fault ↔
    ¬HasValues request name h ∧
      fault = .cacheConsistency (word h.kind ++ " " ++ h.key.text) name := by
  rw [holderFault?, HasValues]
  rcases h.virtual? name with _ | a
  · simp
  · simp only [Option.bind_some, faultOf_virtualValues, Option.some.injEq, forall_eq',
      Option.isSome_iff_ne_none, not_or, not_not, and_assoc]

theorem holderFault?_eq_none : holderFault? request name h = none ↔ HasValues request name h := by
  constructor
  · intro hnone
    by_contra hv
    rw [holderFault?_eq_some.2 ⟨hv, rfl⟩] at hnone
    cases hnone
  · intro hv
    refine Option.eq_none_iff_forall_ne_some.2 fun fault hf => ?_
    exact (holderFault?_eq_some.1 hf).1 hv

/-- The first holder with a fault decides, if none before it leaves the item out. -/
theorem faultOf_virtualContribution : ∀ {holders : List Holder} {sum : Contribution},
    faultOf (virtualContribution request name sum holders) =
      (holders.takeWhile fun h => !h.isReadOnly name).findSome? (holderFault? request name)
  | [], _ => rfl
  | h :: rest, sum => by
    rw [virtualContribution, List.takeWhile_cons, Holder.isReadOnly]
    rcases ha : h.virtual? name with _ | a
    · have hfault : holderFault? request name h = none := by rw [holderFault?, ha]; rfl
      simp only [Option.any_none, Bool.not_false, if_true, List.findSome?_cons, hfault]
      exact faultOf_virtualContribution
    · rcases hr : a.schema.readOnly with _ | _
      · have hfault : holderFault? request name h = faultOf (virtualValues request h name a) := by
          rw [holderFault?, ha]
          rfl
        simp only [Option.any_some, hr, Bool.not_false, if_true, List.findSome?_cons, hfault]
        rcases virtualValues request h name a with f | values
        · rfl
        · exact faultOf_virtualContribution
      · simp only [Option.any_some, hr]
        rfl

theorem faultOf_contribution : faultOf (contribution request item) =
    (holdersRead request.subject item).findSome? (holderFault? request item.internalName) := by
  unfold contribution holdersRead
  rcases item.internalKind with ⟨owner, _ | _ | _⟩ | _ | _ | _ | _ | _
  · rfl
  · rfl
  · exact faultOf_virtualContribution
  all_goals rfl

end VirtualItems

section Passwords

/-- Whether a password has to be made up: for a user who is created, when none is brought along or
stored, the resource asks for it and a policy applies. -/
def MakesUpPassword (resolver : Resolver) (request : ResolutionRequest) : Prop :=
  (∃ user, request.subject = .user user ∧ resolver.storedPassword? user = none) ∧
    request.password = none ∧ request.operation = .create ∧
    request.resource.randomPassword = true ∧ resolver.policies request ≠ []

theorem password_of_makesUp (h : resolver.MakesUpPassword request) :
    resolver.password request draws =
      ((PasswordPolicy.generateFor (resolver.policies request) resolver.retries draws).map
        some).mapError .invalidPolicy := by
  obtain ⟨⟨user, huser, hstored⟩, hpassword, hcreate, hrandom, hpolicies⟩ := h
  simp only [Resolver.password, huser, hpassword, hcreate, hstored, hrandom, ne_eq,
    not_true_eq_false, if_false, Bool.not_true, Bool.false_or, Bool.false_eq_true,
    List.isEmpty_eq_false_iff.2 hpolicies]
  rcases PasswordPolicy.generateFor (resolver.policies request) resolver.retries draws with
    e | clear <;> rfl

theorem password_of_not_makesUp {user : User} (hs : request.subject = .user user)
    (h : ¬resolver.MakesUpPassword request) : resolver.password request draws =
      .ok (request.password.or
        (if request.operation = .create then resolver.storedPassword? user else none)) := by
  simp only [Resolver.password, hs]
  rcases hpassword : request.password with _ | clear
  · by_cases hcreate : request.operation = .create
    · rcases hstored : resolver.storedPassword? user with _ | clear
      · by_cases hpolicies : !request.resource.randomPassword || (resolver.policies request).isEmpty
        · simp [hcreate, hpolicies]
        · refine absurd ⟨⟨user, hs, hstored⟩, hpassword, hcreate, ?_⟩ h
          simpa using hpolicies
      · simp [hcreate]
    · simp [hcreate]
  · rfl

theorem exists_password (h : ¬resolver.MakesUpPassword request) :
    ∃ given, resolver.password request draws = .ok given := by
  rcases hs : request.subject with user | role | membership
  · exact ⟨_, password_of_not_makesUp hs h⟩
  · exact ⟨none, by rw [Resolver.password, hs]⟩
  · exact ⟨none, by rw [Resolver.password, hs]⟩

/-- The only fault with a password is that none can be made up. -/
theorem faultOf_password : faultOf (resolver.password request draws) = some fault ↔
    resolver.MakesUpPassword request ∧ ∃ e, fault = .invalidPolicy e ∧
      PasswordPolicy.generateFor (resolver.policies request) resolver.retries draws = .error e := by
  by_cases h : resolver.MakesUpPassword request
  · rw [password_of_makesUp h]
    rcases PasswordPolicy.generateFor (resolver.policies request) resolver.retries draws with
      e | clear <;> simp [h, faultOf, Except.map, Except.mapError, eq_comm]
  · obtain ⟨given, hgiven⟩ := @exists_password resolver request draws h
    simp [hgiven, h, faultOf]

theorem faultOf_passwordContribution : faultOf (resolver.passwordContribution request draws) =
    faultOf (resolver.password request draws) := by
  rw [passwordContribution]
  rcases resolver.password request draws with f | _ | clear <;> rfl

end Passwords

section Runs

/-- The fault in what an item gives. -/
def fault? (resolver : Resolver) (request : ResolutionRequest) (draws : Draws)
    (item : MappingItem) : Option Fault :=
  faultOf (resolver.itemContribution request draws item)

theorem fault?_eq : resolver.fault? request draws item =
    if item.givesPassword then faultOf (resolver.password request draws)
    else (holdersRead request.subject item).findSome? (holderFault? request item.internalName) := by
  rw [fault?, itemContribution]
  split_ifs
  · exact faultOf_passwordContribution
  · exact faultOf_contribution

theorem fault?_eq_none : resolver.fault? request draws item = none ↔
    resolver.isGiven request draws item :=
  faultOf_eq_none

/-- One item either has a fault or is taken in, whatever came before it. -/
theorem faultOf_foldlM : ∀ {items : List MappingItem} {d : Draft},
    faultOf (items.foldlM (resolver.takeIn request draws) d) =
      items.findSome? (resolver.fault? request draws)
  | [], _ => rfl
  | item :: items, d => by
    rw [List.foldlM_cons, takeIn, List.findSome?_cons, fault?]
    rcases resolver.itemContribution request draws item with f | given
    · rfl
    · exact faultOf_foldlM

/-- The first item with a fault decides. -/
theorem faultOf_draft : faultOf (resolver.draft request draws items) =
    items.findSome? (resolver.fault? request draws) :=
  faultOf_foldlM

theorem faultOf_resolve (hm : mappingFor request = .ok mapping) :
    faultOf (resolver.resolve request draws) =
      mapping.propagationItems.findSome? (resolver.fault? request draws) := by
  rw [resolve_eq_map hm, faultOf_map, faultOf_draft]

theorem validate_eq_ok {resource : String} {kind : SubjectKind} :
    mapping.validate resource kind = .ok () ↔
      (mapping.items.filter MappingItem.isAccountId).length = 1 ∧
        (mapping.items.filter MappingItem.isPassword).length ≤ 1 := by
  rw [Mapping.validate]
  split_ifs with hid hpassword
  · simp [hid]
  · simpa using fun _ => hpassword
  · simpa using ⟨not_not.1 hid, Nat.not_lt.1 hpassword⟩

end Runs

section Outcomes

/-- What must hold of the mapping, the password and the virtual attributes for a resolution. -/
structure IsResolvable (resolver : Resolver) (request : ResolutionRequest) (draws : Draws)
    (mapping : Mapping) : Prop where
  accountId : (mapping.items.filter MappingItem.isAccountId).length = 1
  password : (mapping.items.filter MappingItem.isPassword).length ≤ 1
  /-- A password can be made up where an item needs that. -/
  madeUp : (∃ item ∈ mapping.propagationItems, item.givesPassword) →
    resolver.MakesUpPassword request → ∃ clear,
      PasswordPolicy.generateFor (resolver.policies request) resolver.retries draws = .ok clear
  values : ∀ item ∈ mapping.propagationItems, item.givesPassword = false →
    ∀ h ∈ holdersRead request.subject item, HasValues request item.internalName h

/-- Every date that is met can be shown: what items read, and all that a template sees of a holder
for which it is rendered. -/
structure ShowsDates (resolver : Resolver) (request : ResolutionRequest) (draws : Draws)
    (mapping : Mapping) : Prop where
  read : ∀ item ∈ mapping.propagationItems, item.givesPassword = false →
    ∀ h ∈ request.subject.related item.internalKind.owner, canRead item h
  /-- The condition of an item that is taken in without a value is rendered unless it is fixed. -/
  conditions : ∀ item ∈ mapping.propagationItems, ∀ c, resolver.given request draws item = some c →
    c.values = [] → isFixed item.mandatoryCondition ∨ request.subject.holder.isPrintable
  link : request.resource.accountLink = none ∨ request.subject.holder.isPrintable

/-- No item has a fault exactly if passwords can be made up and values are known as needed. -/
theorem forall_fault?_eq_none_iff :
    (∀ item ∈ mapping.propagationItems, resolver.fault? request draws item = none) ↔
      ((∃ item ∈ mapping.propagationItems, item.givesPassword) →
        resolver.MakesUpPassword request → ∃ clear,
          PasswordPolicy.generateFor (resolver.policies request) resolver.retries draws =
            .ok clear) ∧
        ∀ item ∈ mapping.propagationItems, item.givesPassword = false →
          ∀ h ∈ holdersRead request.subject item, HasValues request item.internalName h := by
  constructor
  · refine fun hnone => ⟨?_, fun item hi hp h hh => ?_⟩
    · rintro ⟨item, hi, hp⟩ hmade
      have hfault := hnone item hi
      rw [fault?_eq, if_pos hp] at hfault
      rcases hg : PasswordPolicy.generateFor (resolver.policies request) resolver.retries draws with
        e | clear
      · rw [faultOf_password.2 ⟨hmade, e, rfl, hg⟩] at hfault
        cases hfault
      · exact ⟨clear, rfl⟩
    · have hfault := hnone item hi
      rw [fault?_eq, hp, if_neg Bool.false_ne_true, List.findSome?_eq_none_iff] at hfault
      exact holderFault?_eq_none.1 (hfault h hh)
  · rintro ⟨hmadeUp, hvalues⟩ item hi
    rw [fault?_eq]
    split_ifs with hp
    · refine Option.eq_none_iff_forall_ne_some.2 fun fault hf => ?_
      obtain ⟨hmade, e, -, hg⟩ := faultOf_password.1 hf
      obtain ⟨clear, hclear⟩ := hmadeUp ⟨item, hi, hp⟩ hmade
      rw [hclear] at hg
      cases hg
    · exact List.findSome?_eq_none_iff.2 fun h hh =>
        holderFault?_eq_none.2 (hvalues item hi (by simpa using hp) h hh)

theorem exists_resolve_iff : (∃ r, resolver.resolve request draws = .ok r) ↔
    ∃ mapping, mappingFor request = .ok mapping ∧
      ∀ item ∈ mapping.propagationItems, resolver.fault? request draws item = none := by
  constructor
  · rintro ⟨r, hr⟩
    obtain ⟨mapping, hm, -⟩ := bind_eq_ok.1 hr
    refine ⟨mapping, hm, List.findSome?_eq_none_iff.1 ?_⟩
    rw [← faultOf_resolve hm]
    exact faultOf_eq_none.2 ⟨r, hr⟩
  · rintro ⟨mapping, hm, hnone⟩
    refine faultOf_eq_none.1 ?_
    rw [faultOf_resolve hm]
    exact List.findSome?_eq_none_iff.2 hnone

theorem isGiven_of_resolve {r : Resolution}
    (hm : request.resource.mapping? request.subject.kind = some mapping)
    (h : resolver.resolve request draws = .ok r) (hi : item ∈ mapping.propagationItems) :
    resolver.isGiven request draws item := by
  obtain ⟨_, hok, hnone⟩ := exists_resolve_iff.1 ⟨r, h⟩
  obtain rfl := eq_of_mappingFor hm hok
  exact fault?_eq_none.1 (hnone item hi)

theorem isResolvable_iff (hm : request.resource.mapping? request.subject.kind = some mapping) :
    resolver.IsResolvable request draws mapping ↔ mappingFor request = .ok mapping ∧
      ∀ item ∈ mapping.propagationItems, resolver.fault? request draws item = none := by
  rw [mappingFor_eq_ok, validate_eq_ok, forall_fault?_eq_none_iff]
  exact ⟨fun h => ⟨⟨hm, h.accountId, h.password⟩, h.madeUp, h.values⟩,
    fun h => ⟨h.1.2.1, h.1.2.2, h.2.1, h.2.2⟩⟩

theorem canTake_iff {c : Contribution} : canTake request item c ↔
    (item.givesPassword = false →
      ∀ h ∈ request.subject.related item.internalKind.owner, canRead item h) ∧
    (c.values = [] → isFixed item.mandatoryCondition ∨ request.subject.holder.isPrintable) := by
  rw [canTake, Bool.and_eq_true, Bool.or_assoc]
  rcases item.givesPassword <;> rcases c.values <;> simp

/-- What is left out is virtual, and has no dates. -/
theorem canRead_of_given_eq_none (hp : item.givesPassword = false)
    (hgiven : resolver.isGiven request draws item)
    (hnone : resolver.given request draws item = none) : canRead item h := by
  have hleft := map_value_given hp hgiven
  rw [hnone, Option.map_none] at hleft
  split_ifs at hleft with hout
  unfold isLeftOut at hout
  split at hout
  · rename_i hk
    simp [canRead, hk, InternalKind.sort?]
  · cases hout

theorem canResolve_iff (hm : mappingFor request = .ok mapping)
    (hnone : ∀ item ∈ mapping.propagationItems, resolver.fault? request draws item = none) :
    resolver.canResolve request draws ↔ resolver.ShowsDates request draws mapping := by
  have hgiven : ∀ item ∈ mapping.propagationItems, resolver.isGiven request draws item :=
    fun item hi => fault?_eq_none.1 (hnone item hi)
  rw [canResolve, hm]
  simp only [canTakeAll_eq hgiven, Bool.and_eq_true, List.all_eq_true, Bool.or_eq_true,
    Option.isNone_iff_eq_none, Option.all_eq_true, canTake_iff]
  constructor
  · rintro ⟨htake, hlink⟩
    refine ⟨fun item hi hp h hh => ?_, fun item hi c hc => (htake item hi c hc).2, hlink⟩
    rcases hc : resolver.given request draws item with _ | c
    · exact canRead_of_given_eq_none hp (hgiven item hi) hc
    · exact (htake item hi c hc).1 hp h hh
  · intro h
    exact ⟨fun item hi c hc => ⟨h.read item hi, h.conditions item hi c hc⟩, h.link⟩

theorem exists_of_mappingFor (h : mappingFor request = .error fault) : ∃ e, fault = .mapping e := by
  simp only [mappingFor] at h
  split at h
  · exact ⟨_, (Except.error.inj h).symm⟩
  · split at h
    · exact ⟨_, (Except.error.inj h).symm⟩
    · cases h

/-- A fault for values that are not known is that of an item. -/
theorem exists_item_of_cacheConsistency {who : String}
    (h : resolver.resolve request draws = .error (.cacheConsistency who name)) :
    ∃ mapping, mappingFor request = .ok mapping ∧ ∃ item ∈ mapping.propagationItems,
      resolver.fault? request draws item = some (.cacheConsistency who name) := by
  rcases hm : mappingFor request with fault | mapping
  · rw [resolve, hm] at h
    obtain rfl : fault = .cacheConsistency who name := Except.error.inj h
    obtain ⟨e, he⟩ := exists_of_mappingFor hm
    cases he
  · have hfault := faultOf_eq_some.2 h
    rw [faultOf_resolve hm] at hfault
    exact ⟨mapping, rfl, List.exists_of_findSome?_eq_some hfault⟩

/-- The holder and the name in such a fault are those for which no values are known. -/
theorem exists_holder_of_fault? {who : String}
    (h : resolver.fault? request draws item = some (.cacheConsistency who name)) :
    item.givesPassword = false ∧ item.internalName = name ∧
      ∃ h ∈ holdersRead request.subject item, ¬HasValues request name h ∧
        who = word h.kind ++ " " ++ h.key.text := by
  rw [fault?_eq] at h
  split_ifs at h with hp
  · obtain ⟨-, e, he, -⟩ := faultOf_password.1 h
    cases he
  · obtain ⟨holder, hholder, hunknown⟩ := List.exists_of_findSome?_eq_some h
    obtain ⟨hvalues, he⟩ := holderFault?_eq_some.1 hunknown
    obtain ⟨rfl, rfl⟩ := Fault.cacheConsistency.inj he
    exact ⟨by simpa using hp, rfl, holder, hholder, hvalues, rfl⟩

/-- A resolution succeeds exactly if the subject's kind has a mapping with one account id item and
at most one item flagged as the password's, a password can be made up if an item needs that, and
for each item every holder that it reads has values, and if every date that is met can be shown. A
fault for values that are not known names a holder and an attribute that have none. -/
theorem resolve_ok_iff (resolver : Resolver) (request : ResolutionRequest) (draws : Draws) :
    ((∃ r, resolver.resolve request draws = .ok r) ∧ resolver.canResolve request draws ↔
      ∃ mapping, request.resource.mapping? request.subject.kind = some mapping ∧
        resolver.IsResolvable request draws mapping ∧
        resolver.ShowsDates request draws mapping) ∧
    ∀ who name, resolver.resolve request draws = .error (.cacheConsistency who name) →
      ∃ mapping, request.resource.mapping? request.subject.kind = some mapping ∧
        ∃ item ∈ mapping.propagationItems, item.givesPassword = false ∧ item.internalName = name ∧
          ∃ h ∈ holdersRead request.subject item, ¬HasValues request name h ∧
            who = word h.kind ++ " " ++ h.key.text := by
  refine ⟨⟨?_, ?_⟩, fun who name h => ?_⟩
  · rintro ⟨hok, hdates⟩
    obtain ⟨mapping, hm, hnone⟩ := exists_resolve_iff.1 hok
    have hmapping := (mappingFor_eq_ok.1 hm).1
    exact ⟨mapping, hmapping, (isResolvable_iff hmapping).2 ⟨hm, hnone⟩,
      (canResolve_iff hm hnone).1 hdates⟩
  · rintro ⟨mapping, hmapping, hresolvable, hdates⟩
    obtain ⟨hm, hnone⟩ := (isResolvable_iff hmapping).1 hresolvable
    exact ⟨exists_resolve_iff.2 ⟨mapping, hm, hnone⟩, (canResolve_iff hm hnone).2 hdates⟩
  · obtain ⟨mapping, hm, item, hi, hitem⟩ := exists_item_of_cacheConsistency h
    exact ⟨mapping, (mappingFor_eq_ok.1 hm).1, item, hi, exists_holder_of_fault? hitem⟩

/-- The request to create the user `ann`, whose shell is not known. -/
def shellRequest : ResolutionRequest :=
  { annRequest.withMapping ⟨"person",
      [{ MappingItem.simple "username" .username "uid" with isAccountId := true },
        .simple "shell" (.attributeOf .user .virtual) "shell"]⟩ with
    subject := .user { User.bare ⟨7⟩ "ann" with
      attributes := ⟨[], [], [⟨⟨"shell", false, false⟩, none⟩]⟩ } }

theorem resolve_ok_iff_shell :
    let who := "user " ++ Identifier.text ⟨7⟩
    Resolver.resolve ⟨0, none, none⟩ shellRequest (.ofSeed 0) =
      .error (.cacheConsistency who "shell") ∧
    (¬∃ mapping, shellRequest.resource.mapping? shellRequest.subject.kind = some mapping ∧
      IsResolvable ⟨0, none, none⟩ shellRequest (.ofSeed 0) mapping ∧
      ShowsDates ⟨0, none, none⟩ shellRequest (.ofSeed 0) mapping) ∧
    ∃ h : Holder, ¬HasValues shellRequest "shell" h ∧ who = word h.kind ++ " " ++ h.key.text := by
  intro who
  have herror : Resolver.resolve ⟨0, none, none⟩ shellRequest (.ofSeed 0) =
      .error (.cacheConsistency who "shell") := rfl
  obtain ⟨hiff, hnames⟩ := resolve_ok_iff ⟨0, none, none⟩ shellRequest (.ofSeed 0)
  refine ⟨herror, fun hall => ?_, ?_⟩
  · obtain ⟨⟨r, hr⟩, -⟩ := hiff.2 hall
    rw [herror] at hr
    cases hr
  · obtain ⟨_, -, _, -, -, -, h, -, hvalues, hwho⟩ := hnames _ _ herror
    exact ⟨h, hvalues, hwho⟩

/-- The request to create a user with a date that cannot be shown. No item reads the date, but the
account link is rendered for the user. -/
def undatedRequest : ResolutionRequest where
  subject := .user { User.bare ⟨7⟩ "ann" with
    attributes := ⟨[⟨{ PlainSchema.single "born" .date with conversionPattern := some "%Q" },
      [.date ⟨0, 0⟩]⟩], [], []⟩ }
  resource := { Resource.bare "directory" "ldap" with
    accountLink := some "uid=$\x7busername\x7d"
    userMapping := some ⟨"person",
      [{ MappingItem.simple "username" .username "uid" with isAccountId := true }]⟩ }
  operation := .create
  password := none
  changes := .none

/-- Mapping, password and values are as they should be, and still there is no resolution. -/
theorem isResolvable_undated :
    ∃ mapping, undatedRequest.resource.mapping? undatedRequest.subject.kind = some mapping ∧
      IsResolvable ⟨0, none, none⟩ undatedRequest (.ofSeed 0) mapping ∧
      ¬((∃ r, Resolver.resolve ⟨0, none, none⟩ undatedRequest (.ofSeed 0) = .ok r) ∧
        Resolver.canResolve ⟨0, none, none⟩ undatedRequest (.ofSeed 0)) := by
  refine ⟨_, rfl, ⟨by decide, by decide, ?_, ?_⟩, fun h => ?_⟩
  · rintro ⟨item, hi, hp⟩
    obtain rfl := List.mem_singleton.1 hi
    cases hp
  · intro item hi _ h hh
    obtain rfl := List.mem_singleton.1 hi
    cases hh
  · exact absurd h.2 (by decide)

end Outcomes

end Resolver

end Provisioning
