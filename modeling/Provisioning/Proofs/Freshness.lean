import Provisioning.Proofs.Expiry

/-!
# What a refresh leaves behind

A refresh that comes to its end has set the attributes of all its keys to what the source answered
(`run_refresh`), each on the first holder with the key. A holder that comes later under the same key,
as the role of a second membership does, keeps the values that it had (`virtualAt_setAll`): all
values are fresh exactly if those were (`fresh_refresh_iff`).
-/

namespace Provisioning

namespace Attributes

theorem find?_setFirstVirtual {name x : String} {values : Option (List String)} :
    ∀ {as : List VirtualAttribute},
      (setFirstVirtual name values as).find? (fun a => a.schema.name == x) =
        if x = name then (as.find? fun a => a.schema.name == x).map ({ · with values := values })
        else as.find? fun a => a.schema.name == x
  | [] => by simp [setFirstVirtual]
  | a :: rest => by
    rw [setFirstVirtual]
    by_cases hn : a.schema.name = name
    · rw [if_pos hn, List.find?_cons, List.find?_cons]
      by_cases hx : a.schema.name = x
      · simp [hx, ← hn]
      · have hb : (a.schema.name == x) = false := beq_eq_false_iff_ne.2 hx
        have hxn : x ≠ name := fun h => hx (hn.trans h.symm)
        simp [hb, hxn]
    · rw [if_neg hn, List.find?_cons, List.find?_cons, find?_setFirstVirtual]
      by_cases hx : a.schema.name = x
      · have hxn : x ≠ name := fun h => hn (hx.trans h)
        simp [hx, hxn]
      · have hb : (a.schema.name == x) = false := beq_eq_false_iff_ne.2 hx
        simp [hb]

theorem virtual?_setVirtual {as : Attributes} {name x : String} {values : Option (List String)} :
    (as.setVirtual name values).virtual? x =
      if x = name then (as.virtual? x).map ({ · with values := values }) else as.virtual? x :=
  find?_setFirstVirtual

end Attributes

namespace Subject

variable {s : Subject} {kind : SubjectKind} {i : Nat} {name : String}

/-- The keys of the holders of a kind that a subject reaches. -/
def keysOf (s : Subject) (kind : SubjectKind) : List SubjectKey :=
  (s.related kind).map Holder.key

/-- The virtual attribute with a name of the holder at a place. -/
def virtualAt (s : Subject) (kind : SubjectKind) (i : Nat) (name : String) :
    Option VirtualAttribute :=
  (s.related kind)[i]?.bind fun h => h.virtual? name

theorem changeFirst_setVirtual {key : VirtualKey} {values : Option (List String)} :
    changeFirst (fun h => h.key == key.holder)
        (fun h => { h with attributes := h.attributes.setVirtual key.schema values })
        (s.related key.kind) =
      (s.changeAttributes key.kind key.holder fun as => as.setVirtual key.schema values).map
        fun s' => s'.related key.kind :=
  changeFirst_related (f := fun as => as.setVirtual key.schema values)

theorem keysOf_setVirtual {key : VirtualKey} {values : Option (List String)} :
    (s.setVirtual key values).keysOf kind = s.keysOf kind := by
  unfold setVirtual
  rcases h : s.changeAttributes key.kind key.holder fun as => as.setVirtual key.schema values with
    _ | s'
  · rfl
  rw [Option.getD_some, keysOf, keysOf]
  by_cases hk : kind = key.kind
  · subst hk
    have hc := @changeFirst_setVirtual s key values
    rw [h] at hc
    exact map_of_changeFirst (fun _ => by rfl) hc
  · rw [related_of_ne h hk]

theorem virtualAt_setVirtual {key : VirtualKey} {values : Option (List String)} :
    (s.setVirtual key values).virtualAt kind i name =
      if key.kind = kind ∧ (s.keysOf kind).findIdx? (· == key.holder) = some i ∧ key.schema = name
      then (s.virtualAt kind i name).map ({ · with values := values })
      else s.virtualAt kind i name := by
  have hc := @changeFirst_setVirtual s key values
  have hfind : (s.keysOf key.kind).findIdx? (· == key.holder) =
      (s.related key.kind).findIdx? fun h => h.key == key.holder := by
    rw [keysOf, List.findIdx?_map]
    rfl
  unfold setVirtual
  rcases h : s.changeAttributes key.kind key.holder fun as => as.setVirtual key.schema values with
    _ | s' <;> rw [h] at hc
  · -- No holder has the key.
    rw [if_neg]
    · rfl
    rintro ⟨rfl, hi, -⟩
    rw [hfind, findIdx?_of_changeFirst hc] at hi
    simp at hi
  rw [Option.getD_some, virtualAt, virtualAt]
  by_cases hk : key.kind = kind
  · subst hk
    rw [getElem?_changeFirst hc, hfind]
    by_cases hi : ((s.related key.kind).findIdx? fun h => h.key == key.holder) = some i
    · rcases (s.related key.kind)[i]? with _ | holder
      · simp
      · rw [if_pos hi, Option.map_some, Option.bind_some, Option.bind_some, Holder.virtual?,
          Holder.virtual?, Attributes.virtual?_setVirtual]
        simp only [hi, true_and, eq_comm (a := name)]
    · rw [if_neg hi, if_neg fun hn => hi hn.2.1]
  · rw [related_of_ne h (Ne.symm hk), if_neg fun hn => hk hn.1]

/-- The subject with values for each key, set in order. -/
def setAll (s : Subject) (values : VirtualKey → Option (List String)) (keys : List VirtualKey) :
    Subject :=
  keys.foldl (fun s key => s.setVirtual key (values key)) s

theorem keysOf_setAll {values : VirtualKey → Option (List String)} :
    ∀ {s : Subject} {keys : List VirtualKey}, (s.setAll values keys).keysOf kind = s.keysOf kind
  | _, [] => rfl
  | s, key :: keys => by
    rw [setAll, List.foldl_cons]
    exact keysOf_setAll.trans keysOf_setVirtual

/-- The first holder with a key gets the values of that key, and later ones keep what they have. -/
theorem virtualAt_setAll {values : VirtualKey → Option (List String)} {key : SubjectKey} :
    ∀ {keys : List VirtualKey} {s : Subject}, (s.keysOf kind)[i]? = some key →
      (s.setAll values keys).virtualAt kind i name =
        if (s.keysOf kind).findIdx? (· == key) = some i ∧ ⟨kind, key, name⟩ ∈ keys
        then (s.virtualAt kind i name).map ({ · with values := values ⟨kind, key, name⟩ })
        else s.virtualAt kind i name
  | [], s, _ => by simp [setAll]
  | k :: keys, s, hkey => by
    rw [setAll, List.foldl_cons]
    refine (virtualAt_setAll (by rw [keysOf_setVirtual]; exact hkey)).trans ?_
    rw [keysOf_setVirtual, virtualAt_setVirtual]
    have hset : (k.kind = kind ∧ (s.keysOf kind).findIdx? (· == k.holder) = some i ∧
        k.schema = name) ↔ (s.keysOf kind).findIdx? (· == key) = some i ∧ ⟨kind, key, name⟩ = k := by
      constructor
      · rintro ⟨rfl, hi, rfl⟩
        obtain ⟨hlt, hh, -⟩ := List.findIdx?_eq_some_iff_getElem.1 hi
        rw [List.getElem?_eq_getElem hlt, Option.some.injEq] at hkey
        rw [hkey, beq_iff_eq] at hh
        subst hh
        exact ⟨hi, rfl⟩
      · rintro ⟨hi, rfl⟩
        exact ⟨rfl, hi, rfl⟩
    simp only [hset, List.mem_cons]
    by_cases hi : (s.keysOf kind).findIdx? (· == key) = some i
    · by_cases hk : (⟨kind, key, name⟩ : VirtualKey) = k
      · subst hk
        by_cases hm : (⟨kind, key, name⟩ : VirtualKey) ∈ keys <;> simp [hi, hm, Function.comp_def]
      · simp [hi, hk]
    · simp [hi]

end Subject

/-- What a source answers for a key, if there is a source and it does not fail. -/
def VirtualSource.answered (source : VirtualSource) (hasSource : Bool) (key : VirtualKey) :
    Option (List String) :=
  if hasSource then
    match source key with
    | .ok values => values
    | .error _ => none
  else none

section Run

open Program VirtualCache

variable {source : VirtualSource} {hasSource : Bool} {s s' : Subject} {cache cache' : VirtualCache}

theorem run_expireAll {keys : List VirtualKey} {key : VirtualKey} :
    ((expireAll keys).run (answer source) cache).2.get? key =
      if key ∈ keys then none else cache.get? key := by
  let w : VirtualWorld := ⟨cache, []⟩
  have hconst := (@VirtualWorld.run_answer_const Unit source (expireAll keys) w).2
  have hexpired := (VirtualWorld.run_expireAll (fun _ => source) (l := keys) (w := w)).2 key
  rwa [hconst] at hexpired

/-- A source that does not fail leaves its answer in the cache, where there was nothing else. -/
theorem run_fetchInto {key : VirtualKey}
    (hc : cache.get? key = none ∨ cache.get? key = source.answered hasSource key)
    (h : (fetchInto hasSource key).run (answer source) cache = (.ok (), cache')) :
    cache'.get? key = source.answered hasSource key ∧
      ∀ k, k ≠ key → cache'.get? k = cache.get? k := by
  unfold fetchInto at h
  unfold VirtualSource.answered at hc ⊢
  rcases hasSource
  · obtain rfl := (Prod.mk.inj h).2
    exact ⟨by simpa using hc, fun _ _ => rfl⟩
  rw [if_pos rfl, VirtualRequest.ask, run_request_bind] at h
  simp only [answer, if_true] at h hc ⊢
  rcases hs : source key with fault | _ | values <;> simp only [hs] at h hc ⊢
  · have hn := (Prod.mk.inj h).1
    simp at hn
  · obtain rfl := (Prod.mk.inj h).2
    exact ⟨by simpa using hc, fun _ _ => rfl⟩
  · obtain rfl := (Prod.mk.inj h).2
    refine ⟨?_, fun k hk => ?_⟩
    · exact Keyed.lookup_put.trans (if_pos rfl)
    · exact Keyed.lookup_put.trans (if_neg hk)

theorem run_loadAll : ∀ {keys : List VirtualKey} {s : Subject} {cache : VirtualCache},
    (∀ key ∈ keys, cache.get? key = none ∨ cache.get? key = source.answered hasSource key) →
    ((loadAll hasSource s keys).run (answer source) cache).1 = (s', .ok ()) →
    s' = s.setAll (source.answered hasSource) keys
  | [], s, cache, _, h => (Prod.mk.inj h).1.symm
  | key :: keys, s, cache, hc, h => by
    rw [loadAll, run_bind] at h
    rcases hf : (fetchInto hasSource key).run (answer source) cache with ⟨_ | ⟨⟩, cache'⟩ <;>
      rw [hf] at h
    · have hn := (Prod.mk.inj h).2
      simp at hn
    · obtain ⟨hkey, hother⟩ := run_fetchInto (hc key List.mem_cons_self) hf
      change ((loadAll hasSource (s.setVirtual key (cache'.get? key)) keys).run (answer source)
        cache').1 = _ at h
      rw [hkey] at h
      show s' = (s.setVirtual key (source.answered hasSource key)).setAll _ keys
      refine run_loadAll (fun k hk => ?_) h
      by_cases hkk : k = key
      · exact .inr (by rw [hkk, hkey])
      · rw [hother k hkk]
        exact hc k (List.mem_cons_of_mem _ hk)

theorem run_refresh {resource : Resource}
    (h : ((refresh hasSource s resource).run (answer source) cache).1 = (s', .ok ())) :
    s' = s.setAll (source.answered hasSource) (s.virtualKeys resource) := by
  rw [refresh, run_bind] at h
  exact run_loadAll (fun key hk => .inl (by rw [run_expireAll, if_pos hk])) h

end Run

namespace Subject

variable {s s' : Subject} {mapping : Mapping} {values : VirtualKey → Option (List String)}
  {kind : SubjectKind} {i : Nat} {name : String}

/-- The virtual attributes that a mapping reads from a subject have these values. -/
def IsFresh (s : Subject) (mapping : Mapping) (values : VirtualKey → Option (List String)) : Prop :=
  ∀ item ∈ mapping.propagationItems, ∀ owner, item.internalKind = .attributeOf owner .virtual →
    ∀ h ∈ s.related owner, ∀ a, h.virtual? item.internalName = some a →
      a.values = values ⟨h.kind, h.key, item.internalName⟩

/-- Those have them whose holders come later under a key that another holder has already. -/
def IsFreshLater (s : Subject) (mapping : Mapping) (values : VirtualKey → Option (List String)) :
    Prop :=
  ∀ item ∈ mapping.propagationItems, ∀ owner, item.internalKind = .attributeOf owner .virtual →
    ∀ i h, (s.related owner)[i]? = some h → (∃ g ∈ (s.related owner).take i, g.key = h.key) →
      ∀ a, h.virtual? item.internalName = some a →
        a.values = values ⟨h.kind, h.key, item.internalName⟩

theorem mem_virtualKeys {resource : Resource} {item : MappingItem} {owner : SubjectKind} {h : Holder}
    (hm : resource.mapping? s.kind = some mapping) (hi : item ∈ mapping.propagationItems)
    (ho : item.internalKind = .attributeOf owner .virtual) (hh : h ∈ s.related owner) :
    ⟨owner, h.key, item.internalName⟩ ∈ s.virtualKeys resource :=
  mem_virtualKeys_iff.2 ⟨mapping, hm, item, hi, owner, ho, rfl, .inl ⟨rfl, h, hh, rfl⟩⟩

theorem findIdx?_keysOf {h : Holder} (hi : (s.related kind)[i]? = some h) :
    (s.keysOf kind).findIdx? (· == h.key) = some i ↔
      ¬∃ g ∈ (s.related kind).take i, g.key = h.key := by
  obtain ⟨hlt, hget⟩ := List.getElem?_eq_some_iff.1 hi
  rw [keysOf, List.findIdx?_map, List.findIdx?_eq_some_iff_getElem]
  constructor
  · rintro ⟨_, -, hbefore⟩ ⟨g, hg, hkey⟩
    obtain ⟨j, hj, rfl⟩ := List.mem_take_iff_getElem.1 hg
    exact hbefore j (by omega) (by simp [hkey])
  · intro hn
    refine ⟨hlt, by simp [hget], fun j hj hkey => hn ⟨_, ?_, beq_iff_eq.1 hkey⟩⟩
    exact List.mem_take_iff_getElem.2 ⟨j, by omega, rfl⟩

theorem getElem?_keysOf {h : Holder} (hi : (s.related kind)[i]? = some h) :
    (s.keysOf kind)[i]? = some h.key := by
  rw [keysOf, List.getElem?_map, hi]
  rfl

theorem virtualAt_eq {h : Holder} (hi : (s.related kind)[i]? = some h) :
    s.virtualAt kind i name = h.virtual? name := by
  rw [virtualAt, hi]
  rfl

variable {source : VirtualSource} {hasSource : Bool} {resource : Resource} {cache : VirtualCache}

/-- What a refresh makes of a holder: it has what the source answered, unless another holder comes
before it under its key. -/
theorem virtual?_refresh {item : MappingItem} {owner : SubjectKind} {h : Holder}
    (hm : resource.mapping? s.kind = some mapping) (hitem : item ∈ mapping.propagationItems)
    (ho : item.internalKind = .attributeOf owner .virtual)
    (hr : ((refresh hasSource s resource).run (VirtualCache.answer source) cache).1 = (s', .ok ()))
    (hi : (s.related owner)[i]? = some h) :
    ∃ h', (s'.related owner)[i]? = some h' ∧ h'.kind = h.kind ∧ h'.key = h.key ∧
      ((∃ g ∈ (s.related owner).take i, g.key = h.key) →
        h'.virtual? item.internalName = h.virtual? item.internalName) ∧
      ((¬∃ g ∈ (s.related owner).take i, g.key = h.key) →
        h'.virtual? item.internalName = (h.virtual? item.internalName).map
          ({ · with values := source.answered hasSource ⟨h.kind, h.key, item.internalName⟩ })) := by
  obtain rfl := run_refresh hr
  have hmem := List.mem_of_getElem? hi
  have hkeys : ((s.setAll (source.answered hasSource) (s.virtualKeys resource)).keysOf owner)[i]? =
      some h.key := by
    rw [keysOf_setAll, getElem?_keysOf hi]
  rw [keysOf, List.getElem?_map] at hkeys
  obtain ⟨h', hi', hkey⟩ := Option.map_eq_some_iff.1 hkeys
  have hkind : h.kind = owner := kind_of_mem_related hmem
  have hat : h'.virtual? item.internalName = _ :=
    (virtualAt_eq hi').symm.trans (virtualAt_setAll (getElem?_keysOf hi))
  simp only [findIdx?_keysOf hi, virtualAt_eq hi] at hat
  refine ⟨h', hi', ?_, hkey, fun hlater => ?_, fun hfirst => ?_⟩
  · rw [hkind, kind_of_mem_related (List.mem_of_getElem? hi')]
  · rw [hat, if_neg fun hn => hn.1 hlater]
  · rw [hat, if_pos ⟨hfirst, mem_virtualKeys hm hitem ho hmem⟩, hkind]

/-- After a refresh the values are those that the source answered, exactly if they were so before on
the holders that come later under a key. -/
theorem fresh_refresh_iff (hm : resource.mapping? s.kind = some mapping)
    (hr : ((refresh hasSource s resource).run (VirtualCache.answer source) cache).1 = (s', .ok ())) :
    s'.IsFresh mapping (source.answered hasSource) ↔
      s.IsFreshLater mapping (source.answered hasSource) := by
  constructor
  · intro hfresh item hitem owner ho i h hi hlater a ha
    obtain ⟨h', hi', hkind, hkey, hkept, -⟩ := virtual?_refresh hm hitem ho hr hi
    rw [← hkept hlater] at ha
    rw [← hkind, ← hkey]
    exact hfresh item hitem owner ho h' (List.mem_of_getElem? hi') a ha
  · intro hlater item hitem owner ho h' hh' a ha
    obtain ⟨i, hi'⟩ := List.mem_iff_getElem?.1 hh'
    obtain ⟨h, hi⟩ : ∃ h, (s.related owner)[i]? = some h := by
      have hkeys : (s'.keysOf owner)[i]? = some h'.key := getElem?_keysOf hi'
      rw [run_refresh hr, keysOf_setAll, keysOf, List.getElem?_map] at hkeys
      obtain ⟨h, hi, -⟩ := Option.map_eq_some_iff.1 hkeys
      exact ⟨h, hi⟩
    obtain ⟨h₂, hi₂, hkind, hkey, hkept, hset⟩ := virtual?_refresh hm hitem ho hr hi
    obtain rfl : h' = h₂ := Option.some.inj (hi'.symm.trans hi₂)
    rw [hkind, hkey]
    by_cases hl : ∃ g ∈ (s.related owner).take i, g.key = h.key
    · rw [hkept hl] at ha
      exact hlater item hitem owner ho i h hi hl a ha
    · rw [hset hl] at ha
      obtain ⟨b, -, rfl⟩ := Option.map_eq_some_iff.1 ha
      rfl

/-- A role with one virtual attribute. -/
def led (managers : Option (List String)) : Role :=
  { Role.bare ⟨0⟩ "staff" with attributes := ⟨[], [], [⟨⟨"manager", false, false⟩, managers⟩]⟩ }

/-- A user with two memberships of the role, each with its own copy of it. -/
def twiceIn (first second : Option (List String)) : Subject :=
  .user { User.bare ⟨1⟩ "jdoe" with
    memberships := [.bare ⟨2⟩ (led first), .bare ⟨3⟩ (led second)] }

/-- The mapping that reads the attribute of the role. -/
def ofRoles : Mapping :=
  ⟨"__ACCOUNT__", [.simple "manager" (.attributeOf .role .virtual) "manager"]⟩

/-- A resource with the mapping for its users. -/
def staffDirectory : Resource :=
  { Resource.bare "ldap" "directory" with userMapping := some ofRoles }

/-- The source gives the first copy its values, and the second copy has them already. -/
theorem fresh_refresh_first :
    let source : VirtualSource := fun _ => .ok (some ["ann"])
    ((refresh true (twiceIn none (some ["ann"])) staffDirectory).run (VirtualCache.answer source)
        .empty).1 = (twiceIn (some ["ann"]) (some ["ann"]), .ok ()) ∧
      (twiceIn (some ["ann"]) (some ["ann"])).IsFresh ofRoles (source.answered true) := by
  have hm : staffDirectory.mapping? (twiceIn none (some ["ann"])).kind = some ofRoles := rfl
  have hr : ((refresh true (twiceIn none (some ["ann"])) staffDirectory).run
      (VirtualCache.answer fun _ => .ok (some ["ann"])) .empty).1 =
        (twiceIn (some ["ann"]) (some ["ann"]), .ok ()) := rfl
  refine ⟨hr, (fresh_refresh_iff hm hr).2 fun item hitem owner ho i h hi hlater a ha => ?_⟩
  obtain rfl := List.mem_singleton.1 hitem
  obtain rfl : SubjectKind.role = owner := (InternalKind.attributeOf.inj ho).1
  rcases i with _ | _ | i
  · obtain ⟨g, hg, -⟩ := hlater
    exact absurd hg List.not_mem_nil
  · obtain rfl := Option.some.inj hi
    obtain rfl := Option.some.inj ha
    rfl
  · cases hi

/-- The second copy keeps a value that neither the source nor the cache has any more. -/
theorem stale_of_refresh :
    let source : VirtualSource := fun _ => .ok (some ["ann"])
    ((refresh true (twiceIn (some ["bob"]) (some ["bob"])) staffDirectory).run
        (VirtualCache.answer source) .empty).1 = (twiceIn (some ["ann"]) (some ["bob"]), .ok ()) ∧
      ¬(twiceIn (some ["ann"]) (some ["bob"])).IsFresh ofRoles (source.answered true) := by
  refine ⟨rfl, fun hfresh => ?_⟩
  have hbob := hfresh _ (by exact List.mem_singleton_self _) .role rfl (led (some ["bob"])).holder
    (by simp [twiceIn, related, User.roles, User.bare, Membership.bare]) _ rfl
  simp [VirtualSource.answered] at hbob

end Subject

end Provisioning
