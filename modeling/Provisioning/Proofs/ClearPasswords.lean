import Provisioning.Proofs.MappingOrder

/-!
# Passwords in the clear

A new password that a request brings is given by the password items only, and what they give is a
value like any other (`itemContribution_withPassword`). So two requests that bring different
passwords come to drafts that agree in all but the password's attribute (`Draft.Agrees`), item by
item (`takeIn_agrees`) and at the end (`draft_agrees`). What is made of the drafts agrees as well:
the password is not in the account id, the name or any other attribute, nor does it decide on a
fault (`resolve_withPassword`).
-/

namespace Provisioning

namespace AttributeSet

/-- Sets that have the same under every name but one. -/
def AgreeBut (name : String) (s t : AttributeSet) : Prop :=
  ∀ x, x ≠ name → s.get? x = t.get? x

namespace AgreeBut

variable {s t : AttributeSet} {name x : String} {v w : AttributeValue}

theorem set (h : s.AgreeBut name t) : (s.set x v).AgreeBut name (t.set x v) := by
  intro y hy
  rw [get?_set, get?_set, h y hy]

theorem set_self (h : s.AgreeBut name t) : (s.set name v).AgreeBut name (t.set name w) := by
  intro y hy
  rw [get?_set, get?_set, if_neg hy, if_neg hy, h y hy]

theorem setIfAny {value : Option String} (h : s.AgreeBut name t) :
    (Resolver.setIfAny x value s).AgreeBut name (Resolver.setIfAny x value t) := by
  rcases value with _ | v
  · exact h
  · exact h.set

theorem listIfAny {names : List String} (h : s.AgreeBut name t) :
    (Resolver.listIfAny x names s).AgreeBut name (Resolver.listIfAny x names t) := by
  unfold Resolver.listIfAny
  split_ifs
  · exact h
  · exact h.set

end AgreeBut

end AttributeSet

/-- The request with a new password. -/
def ResolutionRequest.withPassword (r : ResolutionRequest) (clear : String) : ResolutionRequest :=
  { r with password := some clear }

namespace Resolver

/-- Drafts that agree in all but the password's attribute. -/
structure Draft.Agrees (d d' : Draft) : Prop where
  accountId : d.accountId = d'.accountId
  missing : d.missing = d'.missing
  empty : d.empty = d'.empty
  attributes : d.attributes.AgreeBut passwordAttribute d'.attributes

section Items

variable {resolver : Resolver} {request : ResolutionRequest} {draws draws' : Draws}
  {clear clear' : String} {item : MappingItem} {d d' : Draft} {holder : Holder}

theorem password_withPassword :
    resolver.password (request.withPassword clear) draws =
      .ok (if request.subject.kind = .user then some clear else none) := by
  obtain ⟨s, _, _, _, _⟩ := request
  rcases s with u | r | m <;> rfl

/-- What a password item gives for a password. -/
def passwordGiven (clear : String) : Contribution :=
  ⟨[.string clear], true, false⟩

/-- Items give the same whatever the new password is, except that a password item gives it. -/
theorem itemContribution_withPassword :
    resolver.itemContribution (request.withPassword clear) draws item =
        resolver.itemContribution (request.withPassword clear') draws' item ∨
      item.givesPassword ∧
        resolver.itemContribution (request.withPassword clear) draws item =
          .ok (some (passwordGiven clear)) ∧
        resolver.itemContribution (request.withPassword clear') draws' item =
          .ok (some (passwordGiven clear')) := by
  simp only [itemContribution]
  by_cases hp : item.givesPassword
  · rw [if_pos hp, if_pos hp, passwordContribution, passwordContribution, password_withPassword,
      password_withPassword]
    by_cases hu : request.subject.kind = .user
    · rw [if_pos hu, if_pos hu]
      exact .inr ⟨hp, rfl, rfl⟩
    · rw [if_neg hu, if_neg hu]
      exact .inl rfl
  · rw [if_neg hp, if_neg hp]
    exact .inl (contribution_congr rfl rfl)

namespace Draft.Agrees

/-- Drafts go on to agree when an item gives the same to both. -/
theorem add (h : d.Agrees d') {given : Option Contribution} :
    (d.add holder item given).Agrees (d'.add holder item given) where
  accountId := by
    rw [@accountId_add d holder item fun _ => given, @accountId_add d' holder item fun _ => given,
      h.accountId]
  missing := by
    rw [@missing_add d holder item fun _ => given, @missing_add d' holder item fun _ => given,
      h.missing]
  empty := by
    rw [@empty_add d holder item fun _ => given, @empty_add d' holder item fun _ => given, h.empty]
  attributes x hx := by
    rw [@get?_add d holder item (fun _ => given) x, @get?_add d' holder item (fun _ => given) x,
      h.attributes x hx]

/-- A password item that is not the account id's gives its password to the password's attribute. -/
theorem add_password (h : d.Agrees d') (hp : item.givesPassword) (hid : item.isAccountId = false) :
    (d.add holder item (some (passwordGiven clear))).Agrees
      (d'.add holder item (some (passwordGiven clear'))) := by
  have hadd (d : Draft) (clear : String) : d.add holder item (some (passwordGiven clear)) =
      { d with attributes := d.attributes.set passwordAttribute (.string clear) } := by
    simp [Draft.add, mark, take, passwordGiven, hp, hid]
  rw [hadd, hadd]
  exact ⟨h.accountId, h.missing, h.empty, h.attributes.set_self⟩

end Draft.Agrees

/-- An item has the same fault for both passwords, or keeps drafts in agreement. -/
theorem takeIn_agrees (h : d.Agrees d') (hid : item.isAccountId → item.givesPassword = false) :
    (∃ fault, resolver.takeIn (request.withPassword clear) draws d item = .error fault ∧
        resolver.takeIn (request.withPassword clear') draws' d' item = .error fault) ∨
      ∃ e e', resolver.takeIn (request.withPassword clear) draws d item = .ok e ∧
        resolver.takeIn (request.withPassword clear') draws' d' item = .ok e' ∧ e.Agrees e' := by
  rw [takeIn, takeIn]
  rcases @itemContribution_withPassword resolver request draws draws' clear clear' item with
    hsame | ⟨hp, hgiven, hgiven'⟩
  · rw [hsame]
    rcases resolver.itemContribution (request.withPassword clear') draws' item with fault | given
    · exact .inl ⟨fault, rfl, rfl⟩
    · exact .inr ⟨_, _, rfl, rfl, h.add⟩
  · have hid : item.isAccountId = false := by
      by_contra hne
      simp [hid (by simpa using hne)] at hp
    rw [hgiven, hgiven']
    exact .inr ⟨_, _, rfl, rfl, h.add_password hp hid⟩

theorem foldlM_takeIn_agrees : ∀ {items : List MappingItem} {d d' : Draft}, d.Agrees d' →
    (∀ item ∈ items, item.isAccountId → item.givesPassword = false) →
      (∃ fault, items.foldlM (resolver.takeIn (request.withPassword clear) draws) d = .error fault ∧
          items.foldlM (resolver.takeIn (request.withPassword clear') draws') d' = .error fault) ∨
        ∃ e e', items.foldlM (resolver.takeIn (request.withPassword clear) draws) d = .ok e ∧
          items.foldlM (resolver.takeIn (request.withPassword clear') draws') d' = .ok e' ∧
          e.Agrees e'
  | [], _, _, h, _ => .inr ⟨_, _, rfl, rfl, h⟩
  | item :: items, d, d', h, hid => by
    rw [List.foldlM_cons, List.foldlM_cons]
    rcases takeIn_agrees h (hid item List.mem_cons_self) with
      ⟨fault, hd, hd'⟩ | ⟨e, e', hd, hd', hagree⟩
    · rw [hd, hd']
      exact .inl ⟨fault, rfl, rfl⟩
    · rw [hd, hd']
      exact foldlM_takeIn_agrees hagree fun i hi => hid i (List.mem_cons_of_mem item hi)

/-- Whatever the new password is, the drafts agree or there is the same fault. -/
theorem draft_agrees {items : List MappingItem}
    (hid : ∀ item ∈ items, item.isAccountId → item.givesPassword = false) :
    (∃ fault, resolver.draft (request.withPassword clear) draws items = .error fault ∧
        resolver.draft (request.withPassword clear') draws' items = .error fault) ∨
      ∃ d d', resolver.draft (request.withPassword clear) draws items = .ok d ∧
        resolver.draft (request.withPassword clear') draws' items = .ok d' ∧ d.Agrees d' :=
  foldlM_takeIn_agrees ⟨rfl, rfl, rfl, fun _ _ => rfl⟩ hid

theorem canTakeAll_withPassword : ∀ {items : List MappingItem},
    resolver.canTakeAll (request.withPassword clear) draws items =
      resolver.canTakeAll (request.withPassword clear') draws' items
  | [] => rfl
  | item :: items => by
    rw [canTakeAll, canTakeAll, canTakeAll_withPassword]
    rcases @itemContribution_withPassword resolver request draws draws' clear clear' item with
      hsame | ⟨-, hgiven, hgiven'⟩
    · rw [hsame]
      rfl
    · rw [hgiven, hgiven']
      rfl

end Items

/-- What is made of drafts that agree has the same account id and name, and agrees in all but the
password's attribute. -/
theorem finish_agrees {request request' : ResolutionRequest} {mapping : Mapping} {d d' : Draft}
    (h : d.Agrees d') (hs : request.subject = request'.subject)
    (hr : request.resource = request'.resource) :
    (finish request mapping d).accountId = (finish request' mapping d').accountId ∧
      (finish request mapping d).name = (finish request' mapping d').name ∧
      (finish request mapping d).attributes.AgreeBut passwordAttribute
        (finish request' mapping d').attributes := by
  simp only [finish, hs, hr, h.accountId, h.missing, h.empty, true_and]
  refine (AttributeSet.AgreeBut.setIfAny ?_).listIfAny.listIfAny
  split
  · exact h.attributes.setIfAny
  · exact h.attributes

/-- Two resolutions with different new passwords fail for the same fault, or come to the same
account id and name and to attributes that are the same but for the password's. They also meet the
same dates. What would be drawn for a password that is made up plays no part. -/
theorem resolve_withPassword (resolver : Resolver) (request : ResolutionRequest)
    (draws draws' : Draws) (clear clear' : String)
    (hid : ∀ mapping, mappingFor request = .ok mapping →
      ∀ item ∈ mapping.items, item.isAccountId → item.givesPassword = false) :
    ((∃ fault, resolver.resolve (request.withPassword clear) draws = .error fault ∧
        resolver.resolve (request.withPassword clear') draws' = .error fault) ∨
      ∃ r r', resolver.resolve (request.withPassword clear) draws = .ok r ∧
        resolver.resolve (request.withPassword clear') draws' = .ok r' ∧
        r.accountId = r'.accountId ∧ r.name = r'.name ∧
        ∀ x, x ≠ passwordAttribute → r.attributes.get? x = r'.attributes.get? x) ∧
      resolver.canResolve (request.withPassword clear) draws =
        resolver.canResolve (request.withPassword clear') draws' := by
  have hsame (clear : String) : mappingFor (request.withPassword clear) = mappingFor request := rfl
  rcases hm : mappingFor request with fault | mapping
  · have herror (clear : String) (draws : Draws) :
        resolver.resolve (request.withPassword clear) draws = .error fault := by
      rw [resolve, hsame, hm]
      rfl
    rw [canResolve, canResolve, hsame, hsame, hm]
    exact ⟨.inl ⟨fault, herror clear draws, herror clear' draws'⟩, rfl⟩
  have hok (clear : String) : mappingFor (request.withPassword clear) = .ok mapping := hm
  rw [resolve_eq_map (hok clear), resolve_eq_map (hok clear'), canResolve, canResolve, hok, hok]
  refine ⟨?_, canTakeAll_withPassword⟩
  have hitems : ∀ item ∈ mapping.propagationItems, item.isAccountId → item.givesPassword = false :=
    fun item hi => hid mapping hm item (List.mem_filter.1 hi).1
  rcases @draft_agrees resolver request draws draws' clear clear' _ hitems with
    ⟨fault, hd, hd'⟩ | ⟨d, d', hd, hd', hagree⟩
  · rw [hd, hd']
    exact .inl ⟨fault, rfl, rfl⟩
  · rw [hd, hd']
    exact .inr ⟨_, _, rfl, rfl, finish_agrees hagree rfl rfl⟩

/-- The user `ann` is resolved with two passwords, which are all that the resolutions differ in. -/
theorem resolve_withPassword_ann :
    ∃ r r', Resolver.resolve ⟨0, none, none⟩ ((annRequest.withMapping annMapping).withPassword "pw")
        (.ofSeed 0) = .ok r ∧
      Resolver.resolve ⟨0, none, none⟩ ((annRequest.withMapping annMapping).withPassword "secret")
        (.ofSeed 1) = .ok r' ∧
      r.accountId = some "ann" ∧ r.accountId = r'.accountId ∧ r.name = r'.name ∧
      (∀ x, x ≠ passwordAttribute → r.attributes.get? x = r'.attributes.get? x) ∧
      r.attributes.get? passwordAttribute = some (.string "pw") ∧
      r'.attributes.get? passwordAttribute = some (.string "secret") := by
  have hid : ∀ mapping, mappingFor (annRequest.withMapping annMapping) = .ok mapping →
      ∀ item ∈ mapping.items, item.isAccountId → item.givesPassword = false := by
    intro mapping hm
    obtain rfl : annMapping = mapping := Except.ok.inj hm
    decide
  obtain ⟨⟨fault, hfault, -⟩ | ⟨r, r', hr, hr', haccount, hname, hattributes⟩, -⟩ :=
    resolve_withPassword ⟨0, none, none⟩ (annRequest.withMapping annMapping) (.ofSeed 0) (.ofSeed 1)
      "pw" "secret" hid
  · cases hfault
  · refine ⟨r, r', hr, hr', ?_, haccount, hname, hattributes, ?_, ?_⟩
    · obtain rfl := Except.ok.inj (show Except.ok _ = Except.ok r from hr)
      rfl
    · obtain rfl := Except.ok.inj (show Except.ok _ = Except.ok r from hr)
      rfl
    · obtain rfl := Except.ok.inj (show Except.ok _ = Except.ok r' from hr')
      rfl

end Resolver

end Provisioning
