import Provisioning.Proofs.EncodedPasswords
import Provisioning.Proofs.Faults
import Provisioning.Proofs.GuardedGeneration

/-!
# Where a password comes from

For a user the password to send is the new one; on creation it is else the stored one, if the cipher
decodes it, or else one that is made up, if the resource asks for that and a policy applies
(`sentPassword?_eq_some`). All password items of a mapping give this one password, so that it is the
value of the password's attribute, if there is such an item (`get?_password`).
-/

namespace Provisioning

/-- A mapping has an item that sends a password, by its flag or by what it reads. -/
def Mapping.SendsPassword (mapping : Mapping) : Prop :=
  ∃ item ∈ mapping.items, (item.purpose = .both ∨ item.purpose = .propagation) ∧
    (item.isPassword ∨ item.internalKind = .password)

theorem MappingItem.inPropagation_iff {item : MappingItem} :
    item.inPropagation ↔ item.purpose = .both ∨ item.purpose = .propagation := by
  rw [inPropagation]
  cases item.purpose <;> simp [MappingPurpose.includesPropagation]

theorem Mapping.sendsPassword_iff {mapping : Mapping} :
    mapping.SendsPassword ↔ ∃ item ∈ mapping.propagationItems, item.givesPassword := by
  simp only [SendsPassword, propagationItems, List.mem_filter, MappingItem.inPropagation_iff,
    MappingItem.givesPassword, Bool.or_eq_true, beq_iff_eq, and_assoc]

namespace Resolver

variable {resolver : Resolver} {request : ResolutionRequest} {draws : Draws} {item : MappingItem}
  {items : List MappingItem} {mapping : Mapping} {user : User} {clear : String} {r : Resolution}
  {v : Option AttributeValue}

section Sources

/-- A stored password that the cipher decodes. -/
def IsStored (resolver : Resolver) (user : User) (clear : String) : Prop :=
  ∃ cipher stored, resolver.cipher = some cipher ∧ user.password = some stored ∧
    cipher.decode stored = .ok clear

/-- The policies for the password of a user: the global one, those of the roles that the user is a
member of, and that of the resource. -/
def policiesFor (resolver : Resolver) (resource : Resource) (user : User) : List PasswordPolicy :=
  resolver.globalPolicy.toList ++ user.memberships.filterMap (fun m => m.role.passwordPolicy) ++
    resource.passwordPolicy.toList

/-- The password of a user in the clear, by its source. A source counts only if those before it have
none. -/
inductive Supplies (resolver : Resolver) (request : ResolutionRequest) (draws : Draws)
    (user : User) : String → Prop
  | brought {clear : String} (h : request.password = some clear) :
      Supplies resolver request draws user clear
  | stored {clear : String} (hnone : request.password = none)
      (hcreate : request.operation = .create) (h : resolver.IsStored user clear) :
      Supplies resolver request draws user clear
  | madeUp {clear : String} (hnone : request.password = none)
      (hcreate : request.operation = .create) (hstored : ∀ clear, ¬resolver.IsStored user clear)
      (hrandom : request.resource.randomPassword)
      (hpolicies : resolver.policiesFor request.resource user ≠ [])
      (h : PasswordPolicy.generateFor (resolver.policiesFor request.resource user) resolver.retries
        draws = .ok clear) : Supplies resolver request draws user clear

/-- Whether there is a source for the password of a user. -/
def HasSource (resolver : Resolver) (request : ResolutionRequest) (user : User) : Prop :=
  request.password ≠ none ∨ request.operation = .create ∧
    ((∃ clear, resolver.IsStored user clear) ∨
      request.resource.randomPassword ∧ resolver.policiesFor request.resource user ≠ [])

/-- The password that is sent, if one is. -/
def sentPassword? (resolver : Resolver) (request : ResolutionRequest) (draws : Draws) :
    Option String :=
  (resolver.password request draws).toOption.join

theorem storedPassword?_eq_some :
    resolver.storedPassword? user = some clear ↔ resolver.IsStored user clear := by
  unfold storedPassword? IsStored
  rcases resolver.cipher with _ | cipher
  · simp
  · rcases user.password with _ | stored
    · simp
    · rcases hd : cipher.decode stored with e | decoded <;> simp [hd, Except.toOption]

theorem storedPassword?_eq_none :
    resolver.storedPassword? user = none ↔ ∀ clear, ¬resolver.IsStored user clear := by
  rw [Option.eq_none_iff_forall_ne_some]
  exact forall_congr' fun _ => storedPassword?_eq_some.not

theorem policies_eq (hs : request.subject = .user user) :
    resolver.policies request = resolver.policiesFor request.resource user := by
  rw [policies, hs, policiesFor, Subject.roles, User.roles, List.filterMap_map]
  rfl

theorem sentPassword?_of_ok {given : Option String}
    (h : resolver.password request draws = .ok given) :
    resolver.sentPassword? request draws = given := by
  rw [sentPassword?, h]
  rfl

theorem sentPassword?_of_makesUp (h : resolver.MakesUpPassword request) :
    resolver.sentPassword? request draws =
      (PasswordPolicy.generateFor (resolver.policies request) resolver.retries draws).toOption := by
  rw [sentPassword?, password_of_makesUp h]
  rcases PasswordPolicy.generateFor (resolver.policies request) resolver.retries draws <;> rfl

theorem sentPassword?_of_user (hs : request.subject = .user user) :
    resolver.sentPassword? request draws = some clear ↔
      resolver.Supplies request draws user clear := by
  by_cases hmade : resolver.MakesUpPassword request
  · obtain ⟨⟨user', hs', hstored⟩, hnone, hcreate, hrandom, hpolicies⟩ := id hmade
    obtain rfl : user = user' := Subject.user.inj (hs.symm.trans hs')
    rw [policies_eq hs] at hpolicies
    rw [sentPassword?_of_makesUp hmade, policies_eq hs]
    constructor
    · intro h
      refine .madeUp hnone hcreate (storedPassword?_eq_none.1 hstored) hrandom hpolicies ?_
      rcases hg : PasswordPolicy.generateFor (resolver.policiesFor request.resource user)
        resolver.retries draws with e | generated <;> rw [hg] at h <;> cases h
      rfl
    · rintro (hbrought | ⟨-, -, h⟩ | ⟨-, -, -, -, -, h⟩)
      · rw [hnone] at hbrought
        cases hbrought
      · exact absurd h (storedPassword?_eq_none.1 hstored clear)
      · rw [h]
        rfl
  · rw [sentPassword?_of_ok (password_of_not_makesUp hs hmade), Option.or_eq_some_iff]
    constructor
    · rintro (hbrought | ⟨hnone, h⟩)
      · exact .brought hbrought
      · split_ifs at h with hcreate
        exact .stored hnone hcreate (storedPassword?_eq_some.1 h)
    · rintro (hbrought | ⟨hnone, hcreate, h⟩ | ⟨hnone, hcreate, hstored, hrandom, hpolicies, -⟩)
      · exact .inl hbrought
      · exact .inr ⟨hnone, by rw [if_pos hcreate, storedPassword?_eq_some.2 h]⟩
      · exact absurd ⟨⟨user, hs, storedPassword?_eq_none.2 hstored⟩, hnone, hcreate, hrandom,
          policies_eq hs ▸ hpolicies⟩ hmade

/-- What is sent is the password of a user, from the first source that there is. -/
theorem sentPassword?_eq_some : resolver.sentPassword? request draws = some clear ↔
    ∃ user, request.subject = .user user ∧ resolver.Supplies request draws user clear := by
  rcases hs : request.subject with user | role | membership
  · simp [sentPassword?_of_user hs]
  · rw [sentPassword?, Resolver.password, hs]
    simp [Except.toOption]
  · rw [sentPassword?, Resolver.password, hs]
    simp [Except.toOption]

theorem hasSource_of_supplies (h : resolver.Supplies request draws user clear) :
    resolver.HasSource request user := by
  rcases h with hbrought | ⟨-, hcreate, h⟩ | ⟨-, hcreate, -, hrandom, hpolicies, -⟩
  · exact .inl (by simp [hbrought])
  · exact .inr ⟨hcreate, .inl ⟨clear, h⟩⟩
  · exact .inr ⟨hcreate, .inr ⟨hrandom, hpolicies⟩⟩

/-- A password has a source unless it cannot be made up. -/
theorem exists_supplies {given : Option String} (hs : request.subject = .user user)
    (hok : resolver.password request draws = .ok given) (h : resolver.HasSource request user) :
    ∃ clear, resolver.Supplies request draws user clear := by
  rcases hpassword : request.password with _ | clear
  · obtain ⟨hcreate, hsource⟩ := h.resolve_left (not_not.2 hpassword)
    by_cases hstored : ∃ clear, resolver.IsStored user clear
    · obtain ⟨clear, hclear⟩ := hstored
      exact ⟨clear, .stored hpassword hcreate hclear⟩
    · obtain ⟨hrandom, hpolicies⟩ := hsource.resolve_left hstored
      have hundecoded := not_exists.1 hstored
      rw [password_of_makesUp ⟨⟨user, hs, storedPassword?_eq_none.2 hundecoded⟩, hpassword, hcreate,
        hrandom, policies_eq hs ▸ hpolicies⟩, policies_eq hs] at hok
      rcases hg : PasswordPolicy.generateFor (resolver.policiesFor request.resource user)
        resolver.retries draws with e | clear
      · rw [hg] at hok
        cases hok
      · exact ⟨clear, .madeUp hpassword hcreate hundecoded hrandom hpolicies hg⟩
  · exact ⟨clear, .brought hpassword⟩

end Sources

section Attribute

theorem given_of_givesPassword (hp : item.givesPassword) :
    ((resolver.given request draws item).bind fun c => c.values.head?) =
      (resolver.sentPassword? request draws).map .string := by
  rw [given, itemContribution, if_pos hp, passwordContribution, sentPassword?]
  rcases resolver.password request draws with f | _ | clear
  · rfl
  · rcases request.operation with _ | _ | _ <;> rfl
  · rfl

/-- A password item gives the password that is sent, any other item nothing, to the password's
attribute. -/
theorem valueAfter_password (hid : item.givesPassword → item.isAccountId = false)
    (hname : item.externalName = passwordAttribute → item.givesPassword) :
    Draft.valueAfter passwordAttribute (resolver.given request draws) v item =
      if item.givesPassword then ((resolver.sentPassword? request draws).map .string).or v
      else v := by
  unfold Draft.valueAfter
  by_cases hp : item.givesPassword
  · rw [if_pos hp, ← given_of_givesPassword hp]
    rcases resolver.given request draws item with _ | c <;> simp [hid hp, hp]
  · have hne : passwordAttribute ≠ item.externalName := fun h => hp (hname h.symm)
    rcases resolver.given request draws item with _ | c <;> simp [hp, hne]

theorem foldl_valueAfter_sent : ∀ {items : List MappingItem} {v : Option AttributeValue},
    (∀ item ∈ items, item.givesPassword → item.isAccountId = false) →
    (∀ item ∈ items, item.externalName = passwordAttribute → item.givesPassword) →
      items.foldl (Draft.valueAfter passwordAttribute (resolver.given request draws)) v =
        if items.any MappingItem.givesPassword then
          ((resolver.sentPassword? request draws).map .string).or v
        else v
  | [], _, _, _ => rfl
  | item :: items, v, hid, hname => by
    rw [List.foldl_cons, valueAfter_password (hid item List.mem_cons_self)
      (hname item List.mem_cons_self),
      foldl_valueAfter_sent (fun i hi => hid i (List.mem_cons_of_mem item hi))
        fun i hi => hname i (List.mem_cons_of_mem item hi), List.any_cons]
    rcases item.givesPassword <;> rcases items.any MappingItem.givesPassword <;>
      simp [← Option.or_assoc]

/-- There is no fault with the password in a resolution in which an item gives it. -/
theorem password_of_resolve (h : resolver.resolve request draws = .ok r)
    (hm : request.resource.mapping? request.subject.kind = some mapping)
    (hi : item ∈ mapping.propagationItems) (hp : item.givesPassword) :
    ∃ given, resolver.password request draws = .ok given := by
  have hfault := fault?_eq_none.2 (isGiven_of_resolve hm h hi)
  rw [fault?_eq, if_pos hp] at hfault
  exact faultOf_eq_none.1 hfault

/-- The attribute of the password has the password that is sent, if an item gives it. -/
theorem get?_password (h : resolver.resolve request draws = .ok r)
    (hm : request.resource.mapping? request.subject.kind = some mapping)
    (hname : ∀ item ∈ mapping.items, item.externalName = passwordAttribute → item.givesPassword)
    (hid : ∀ item ∈ mapping.items, item.givesPassword → item.isAccountId = false) :
    r.attributes.get? passwordAttribute =
      if mapping.propagationItems.any MappingItem.givesPassword then
        (resolver.sentPassword? request draws).map .string
      else none := by
  obtain ⟨_, idItem, hmapping, hone, -, rfl⟩ := exists_of_resolve h
  obtain rfl := Option.some.inj (hm.symm.trans hmapping)
  have hmem : idItem ∈ mapping.items.filter MappingItem.isAccountId := hone ▸ List.mem_cons_self
  obtain ⟨hi, haccount⟩ := List.mem_filter.1 hmem
  have hne : passwordAttribute ≠ idItem.externalName := by
    intro heq
    have hfalse := hid idItem hi (hname idItem hi heq.symm)
    rw [haccount] at hfalse
    cases hfalse
  have hstart : Draft.start.attributes.get? passwordAttribute = none := rfl
  rw [get?_finish (accountIdItem?_of_filter hone), Draft.get?_addAll, foldl_valueAfter_sent,
    hstart, Option.or_none]
  · exact fun item hi => hid item (List.mem_filter.1 hi).1
  · exact fun item hi => hname item (List.mem_filter.1 hi).1
  · simp [hne]
    decide

/-- A resolution that reads no virtual attribute fails for its mapping or its password only. -/
theorem exists_resolve_of_password {given : Option String}
    (hm : mappingFor request = .ok mapping)
    (hvirtual : ∀ item ∈ mapping.propagationItems, item.internalKind.sort? ≠ some .virtual)
    (hok : resolver.password request draws = .ok given) :
    ∃ r, resolver.resolve request draws = .ok r := by
  refine exists_resolve_iff.2 ⟨mapping, hm, fun item hi => ?_⟩
  rw [fault?_eq]
  split_ifs
  · exact faultOf_eq_none.2 ⟨given, hok⟩
  · have hnone : holdersRead request.subject item = [] := by
      unfold holdersRead
      split
      · rename_i hk
        exact absurd (congrArg InternalKind.sort? hk) (hvirtual item hi)
      · rfl
    rw [hnone]
    rfl

/-- Where password items alone are for the password's attribute, and none of them gives the account
id, a resolution has this attribute exactly if it is that of a user, an item gives the password and
the password has a source. It is the password of the first source that has one. Without a new
password there is none but on creation. -/
theorem resolve_password (resolver : Resolver) (request : ResolutionRequest) (draws : Draws)
    (h : resolver.resolve request draws = .ok r)
    (hm : request.resource.mapping? request.subject.kind = some mapping)
    (hname : ∀ item ∈ mapping.items, item.externalName = passwordAttribute → item.givesPassword)
    (hid : ∀ item ∈ mapping.items, item.givesPassword → item.isAccountId = false) :
    (r.attributes.has passwordAttribute ↔ ∃ user, request.subject = .user user ∧
      mapping.SendsPassword ∧ resolver.HasSource request user) ∧
    (∀ v, r.attributes.get? passwordAttribute = some v ↔
      mapping.SendsPassword ∧ ∃ user clear, request.subject = .user user ∧ v = .string clear ∧
        resolver.Supplies request draws user clear) ∧
    (request.operation ≠ .create → request.password = none →
      r.attributes.has passwordAttribute = false) := by
  rw [Mapping.sendsPassword_iff]
  have hget (v : AttributeValue) : r.attributes.get? passwordAttribute = some v ↔
      (∃ item ∈ mapping.propagationItems, item.givesPassword) ∧ ∃ user clear,
        request.subject = .user user ∧ v = .string clear ∧
          resolver.Supplies request draws user clear := by
    rw [get?_password h hm hname hid, Option.ite_none_right_eq_some, List.any_eq_true,
      Option.map_eq_some_iff]
    simp only [sentPassword?_eq_some]
    refine and_congr_right fun _ => ⟨?_, ?_⟩
    · rintro ⟨clear, ⟨user, hs, hsupplies⟩, rfl⟩
      exact ⟨user, clear, hs, rfl, hsupplies⟩
    · rintro ⟨user, clear, hs, rfl, hsupplies⟩
      exact ⟨clear, ⟨user, hs, hsupplies⟩, rfl⟩
  have hhas : r.attributes.has passwordAttribute ↔ ∃ user, request.subject = .user user ∧
      (∃ item ∈ mapping.propagationItems, item.givesPassword) ∧
      resolver.HasSource request user := by
    rw [AttributeSet.has, Option.isSome_iff_exists]
    constructor
    · rintro ⟨v, hv⟩
      obtain ⟨hitem, user, clear, hs, -, hsupplies⟩ := (hget v).1 hv
      exact ⟨user, hs, hitem, hasSource_of_supplies hsupplies⟩
    · rintro ⟨user, hs, ⟨item, hi, hp⟩, hsource⟩
      obtain ⟨given, hgiven⟩ := password_of_resolve h hm hi hp
      obtain ⟨clear, hclear⟩ := exists_supplies hs hgiven hsource
      exact ⟨.string clear, (hget _).2 ⟨⟨item, hi, hp⟩, user, clear, hs, rfl, hclear⟩⟩
  refine ⟨hhas, hget, fun hcreate hnone => ?_⟩
  rw [← Bool.not_eq_true, hhas]
  rintro ⟨user, -, -, hbrought | ⟨hop, -⟩⟩
  · exact hbrought hnone
  · exact hcreate hop

/-- A policy for passwords of three characters or more that end in a digit. -/
def digitLast : PasswordPolicy :=
  { PasswordPolicy.free with
    minLength := 3, finish := { Placement.free with mustDigit := true } }

def passwordMapping : Mapping where
  objectClass := "person"
  items := [{ MappingItem.simple "username" .username "uid" with isAccountId := true },
    .forPassword]

/-- The request to create the user `ann` with a stored password or none. Her role asks for a special
character, and the resource for a letter in front. -/
def storedRequest (stored : Option StoredPassword) : ResolutionRequest where
  subject := .user { User.bare ⟨7⟩ "ann" with
    password := stored
    memberships := [.bare ⟨1⟩ { Role.bare ⟨2⟩ "staff" with
      passwordPolicy := some { PasswordPolicy.free with
        minLength := 1, specialRequired := true } }] }
  resource := { Resource.bare "directory" "ldap" with
    userMapping := some passwordMapping
    randomPassword := true
    passwordPolicy := some { PasswordPolicy.free with
      minLength := 1, start := { Placement.free with mustAlpha := true },
      forbiddenPrefixes := ["A"] } }
  operation := .create
  password := none
  changes := .none

/-- The password of `ann` is the new one if there is one, else the stored one if it is decoded, and
else one that is made up for all policies. When she is updated without a new one there is none. -/
theorem resolve_password_ann :
    let draws : Draws := ⟨0, 0, fun _ => true, fun _ => 0, fun _ => 1, fun _ => 1⟩
    (∃ r, Resolver.resolve ⟨1, none, some digitLast⟩
        { storedRequest none with password := some "pw" } draws = .ok r ∧
      r.attributes.get? passwordAttribute = some (.string "pw")) ∧
    (∃ c r, PasswordCipher.ofBytes (List.replicate 32 7) = .ok c ∧
      Resolver.resolve ⟨1, some c, some digitLast⟩
        (storedRequest (some (c.encode (.ofNat 1) "sesame"))) draws = .ok r ∧
      r.attributes.get? passwordAttribute = some (.string "sesame")) ∧
    (∃ r, Resolver.resolve ⟨1, none, some digitLast⟩ (storedRequest none) draws = .ok r ∧
      r.attributes.get? passwordAttribute = some (.string "B!0")) ∧
    ∃ r, Resolver.resolve ⟨1, none, some digitLast⟩
        { storedRequest none with operation := .update } draws = .ok r ∧
      r.attributes.has passwordAttribute = false := by
  intro draws
  have hsends : passwordMapping.SendsPassword := ⟨.forPassword, by decide, .inl rfl, .inl rfl⟩
  refine ⟨⟨_, rfl, ?_⟩, ?_, ⟨_, rfl, ?_⟩, ⟨_, rfl, ?_⟩⟩
  · obtain ⟨-, hget, -⟩ := @resolve_password passwordMapping _ ⟨1, none, some digitLast⟩
      { storedRequest none with password := some "pw" } draws rfl rfl (by decide) (by decide)
    exact (hget _).2 ⟨hsends, _, _, rfl, rfl, .brought rfl⟩
  · obtain ⟨c, hc⟩ : ∃ c, PasswordCipher.ofBytes (List.replicate 32 7) = .ok c :=
      ⟨_, if_pos (by decide)⟩
    let resolver : Resolver := ⟨1, some c, some digitLast⟩
    let request := storedRequest (some (c.encode (.ofNat 1) "sesame"))
    have hstored : ∃ user, request.subject = .user user ∧ resolver.IsStored user "sesame" :=
      ⟨_, rfl, c, _, rfl, rfl,
        PasswordCipher.decode_encode (PasswordCipher.length_key_of_ofBytes hc)⟩
    obtain ⟨user, hs, hstored⟩ := hstored
    obtain ⟨given, hgiven⟩ := @exists_password resolver request draws fun hmade => by
      obtain ⟨⟨user', hs', hnone⟩, -⟩ := hmade
      obtain rfl := Subject.user.inj (hs.symm.trans hs')
      rw [storedPassword?_eq_some.2 hstored] at hnone
      cases hnone
    obtain ⟨r, hr⟩ := exists_resolve_of_password
      (show mappingFor request = .ok passwordMapping from rfl) (by decide) hgiven
    obtain ⟨-, hget, -⟩ := resolve_password resolver request draws hr rfl (by decide) (by decide)
    exact ⟨c, r, hc, hr, (hget _).2 ⟨hsends, user, _, hs, rfl, .stored rfl rfl hstored⟩⟩
  · obtain ⟨-, hget, -⟩ := @resolve_password passwordMapping _ ⟨1, none, some digitLast⟩
      (storedRequest none) draws rfl rfl (by decide) (by decide)
    refine (hget _).2 ⟨hsends, _, _, rfl, rfl, .madeUp rfl rfl ?_ rfl (by decide) rfl⟩
    rintro _ ⟨_, _, hc, -⟩
    cases hc
  · obtain ⟨-, -, hnone⟩ := @resolve_password passwordMapping _ ⟨1, none, some digitLast⟩
      { storedRequest none with operation := .update } draws rfl rfl (by decide) (by decide)
    exact hnone (by decide) rfl

end Attribute

end Resolver

end Provisioning
