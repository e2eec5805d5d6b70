import Provisioning.Proofs.Holders
import Provisioning.Proofs.Runs
import Provisioning.Proofs.Tables
import Provisioning.Virtual.Refresh

/-!
# What a refresh leaves alone

A refresh may end at any key, when the source fails; the source may have changed its mind by then,
as a key can come up again. Still the cache has nothing from before under any key that the mapping
concerns, since all of them are expired before the first is fetched, and every other entry is as it
was (`refresh_spares`). Of the subject nothing is changed but values under those keys: it stays the
same `without` them.
-/

namespace Provisioning

open Program

/-- The attribute without its values, if its name is one of these. -/
def VirtualAttribute.without (names : String → Prop) [DecidablePred names]
    (a : VirtualAttribute) : VirtualAttribute :=
  if names a.schema.name then { a with values := none } else a

def Attributes.without (names : String → Prop) [DecidablePred names] (as : Attributes) :
    Attributes :=
  { as with virtual := as.virtual.map (VirtualAttribute.without names) }

section Without

variable (keys : VirtualKey → Prop) [DecidablePred keys]

def Role.without (r : Role) : Role :=
  { r with attributes := r.attributes.without fun name => keys ⟨.role, r.key, name⟩ }

def Membership.without (m : Membership) : Membership :=
  { m with
    role := m.role.without keys
    attributes := m.attributes.without fun name => keys ⟨.membership, m.key, name⟩ }

def User.without (u : User) : User :=
  { u with
    attributes := u.attributes.without fun name => keys ⟨.user, u.key, name⟩
    memberships := u.memberships.map (Membership.without keys) }

/-- The subject without the values that virtual attributes have under certain keys, its own and
those of its memberships and their roles. -/
def Subject.without : Subject → Subject
  | .user u => .user (u.without keys)
  | .role r => .role (r.without keys)
  | .membership m => .membership (m.without keys)

end Without

theorem map_without_setFirstVirtual {names : String → Prop} [DecidablePred names] {name : String}
    {values : Option (List String)} (hn : names name) : ∀ {as : List VirtualAttribute},
      (Attributes.setFirstVirtual name values as).map (VirtualAttribute.without names) =
        as.map (VirtualAttribute.without names)
  | [] => rfl
  | a :: rest => by
    rw [Attributes.setFirstVirtual]
    split_ifs with ha
    · rw [List.map_cons, List.map_cons]
      simp [VirtualAttribute.without, ha, hn]
    · rw [List.map_cons, List.map_cons, map_without_setFirstVirtual hn]

theorem Attributes.without_setVirtual {names : String → Prop} [DecidablePred names]
    {as : Attributes} {name : String} {values : Option (List String)} (hn : names name) :
    (as.setVirtual name values).without names = as.without names := by
  rw [without, without, setVirtual, map_without_setFirstVirtual hn]

namespace Subject

variable {s s' : Subject} {kind : SubjectKind} {holder : SubjectKey} {key : VirtualKey}
  {keys : VirtualKey → Prop} [DecidablePred keys]

theorem without_eq_mapAttributes : s.without keys =
    s.mapAttributes fun kind holder as => as.without fun name => keys ⟨kind, holder, name⟩ := by
  rcases s with _ | _ | _ <;> rfl

theorem without_changeAttributes {f : Attributes → Attributes}
    (hf : ∀ as : Attributes, (f as).without (fun name => keys ⟨kind, holder, name⟩) =
      as.without fun name => keys ⟨kind, holder, name⟩)
    (h : s.changeAttributes kind holder f = some s') : s'.without keys = s.without keys := by
  rw [without_eq_mapAttributes, without_eq_mapAttributes, mapAttributes_changeAttributes hf h]

/-- To set values under a key is nothing to those who do not look at them. -/
theorem without_setVirtual {values : Option (List String)} (hk : keys key) :
    (s.setVirtual key values).without keys = s.without keys := by
  unfold setVirtual
  rcases h : s.changeAttributes key.kind key.holder fun as => as.setVirtual key.schema values with
    _ | s'
  · rfl
  · exact without_changeAttributes (fun _ => Attributes.without_setVirtual hk) h

/-- A resource's mapping concerns the virtual attribute that a key names: an item reads it from a
holder that the subject reaches, or the attribute is one of that name on a membership of the
user. -/
def Maps (s : Subject) (resource : Resource) (key : VirtualKey) : Prop :=
  ∃ mapping, resource.mapping? s.kind = some mapping ∧ ∃ item ∈ mapping.propagationItems,
    ∃ owner, item.internalKind = .attributeOf owner .virtual ∧ key.schema = item.internalName ∧
      ((key.kind = owner ∧ ∃ h ∈ s.related owner, h.key = key.holder) ∨
        s.kind = .user ∧ key.kind = .membership ∧ ∃ h ∈ s.related .membership, h.key = key.holder)

theorem mem_itemKeys {item : MappingItem} {owner : SubjectKind}
    (ho : item.internalKind = .attributeOf owner .virtual) :
    key ∈ s.itemKeys item ↔ key.schema = item.internalName ∧
      ((key.kind = owner ∧ ∃ h ∈ s.related owner, h.key = key.holder) ∨
        s.kind = .user ∧ key.kind = .membership ∧
          ∃ h ∈ s.related .membership, h.key = key.holder) := by
  obtain ⟨kind, holder, schema⟩ := key
  rw [itemKeys, ho]
  simp only [virtualHolders, List.mem_map, List.mem_append, VirtualKey.mk.injEq]
  constructor
  · rintro ⟨h, hh | hh, rfl, rfl, rfl⟩
    · exact ⟨rfl, .inl ⟨kind_of_mem_related hh, h, hh, rfl⟩⟩
    · split_ifs at hh with hu
      · exact ⟨rfl, .inr ⟨hu.1, kind_of_mem_related hh, h, hh, rfl⟩⟩
      · simp at hh
  · rintro ⟨rfl, ⟨rfl, h, hh, rfl⟩ | ⟨hu, rfl, h, hh, rfl⟩⟩
    · exact ⟨h, .inl hh, kind_of_mem_related hh, rfl, rfl⟩
    · refine ⟨h, ?_, kind_of_mem_related hh, rfl, rfl⟩
      -- The memberships are the holders of an item of theirs already.
      by_cases hm : owner = .membership
      · exact .inl (hm ▸ hh)
      · exact .inr (by rwa [if_pos ⟨hu, hm⟩])

theorem mem_virtualKeys_iff {resource : Resource} :
    key ∈ s.virtualKeys resource ↔ s.Maps resource key := by
  unfold virtualKeys Maps
  rcases resource.mapping? s.kind with _ | mapping
  · simp
  rw [List.mem_flatMap]
  constructor
  · rintro ⟨item, hitem, hk⟩
    obtain ⟨owner, ho⟩ : ∃ owner, item.internalKind = .attributeOf owner .virtual := by
      rw [itemKeys] at hk
      split at hk
      · exact ⟨_, ‹_›⟩
      · simp at hk
    exact ⟨mapping, rfl, item, hitem, owner, ho, (mem_itemKeys ho).1 hk⟩
  · rintro ⟨_, ⟨⟩, item, hitem, owner, ho, hk⟩
    exact ⟨item, hitem, (mem_itemKeys ho).2 hk⟩

instance {resource : Resource} : DecidablePred (s.Maps resource) := fun _ =>
  decidable_of_iff _ mem_virtualKeys_iff

end Subject

/-- What a source knows of a key may have changed when it is asked again. -/
abbrev ChangingSource :=
  List (VirtualKey × Except Fault (Option (List String))) → VirtualSource

/-- A cache, with what a source was asked for and answered so far. -/
structure VirtualWorld where
  cache : VirtualCache
  fetched : List (VirtualKey × Except Fault (Option (List String)))

namespace VirtualWorld

/-- Answers a request from the cache and a source. -/
def answer (source : ChangingSource) :
    (r : VirtualRequest) → VirtualWorld → r.Answer × VirtualWorld
  | .expire key, w => ((), { w with cache := w.cache.expire key })
  | .fetch key, w =>
    (source w.fetched key, { w with fetched := w.fetched ++ [(key, source w.fetched key)] })
  | .put key values, w => ((), { w with cache := w.cache.put key values })
  | .get key, w => (w.cache.get? key, w)

/-- A source that knows the same all the time is one of these. -/
theorem run_answer_const {α : Type} {source : VirtualSource} {p : VirtualProgram α}
    {w : VirtualWorld} :
    (p.run (answer fun _ => source) w).1 = (p.run (VirtualCache.answer source) w.cache).1 ∧
      (p.run (answer fun _ => source) w).2.cache =
        (p.run (VirtualCache.answer source) w.cache).2 := by
  induction p generalizing w with
  | done => exact ⟨rfl, rfl⟩
  | ask r next ih => rcases r with _ | _ | _ | _ <;> exact ih _

/-- What the cache has under a key was fetched for it. -/
def Fresh (w : VirtualWorld) (key : VirtualKey) : Prop :=
  ∀ values, w.cache.get? key = some values → (key, .ok (some values)) ∈ w.fetched

/-- What becomes of a world touches only certain entries of the cache, and puts nothing there but
what was fetched. -/
structure Spares (keys : VirtualKey → Prop) (w w' : VirtualWorld) : Prop where
  fresh : ∀ key, w.Fresh key → w'.Fresh key
  kept : ∀ key, ¬keys key → w'.cache.get? key = w.cache.get? key

variable (source : ChangingSource) (hasSource : Bool) {keys : VirtualKey → Prop}
  {w w₁ w₂ w₃ : VirtualWorld}

theorem Spares.refl (w : VirtualWorld) : Spares keys w w :=
  ⟨fun _ => id, fun _ _ => rfl⟩

theorem Spares.trans (h₁ : Spares keys w₁ w₂) (h₂ : Spares keys w₂ w₃) : Spares keys w₁ w₃ :=
  ⟨fun key => h₂.fresh key ∘ h₁.fresh key, fun key hk => (h₂.kept key hk).trans (h₁.kept key hk)⟩

theorem run_expireAll : ∀ {l : List VirtualKey} {w : VirtualWorld},
    let w' := ((expireAll l).run (answer source) w).2
    w'.fetched = w.fetched ∧
      ∀ key, w'.cache.get? key = if key ∈ l then none else w.cache.get? key
  | [], w => ⟨rfl, fun _ => by rw [if_neg List.not_mem_nil]; rfl⟩
  | k :: l, w => by
    obtain ⟨hf, hc⟩ := @run_expireAll l { w with cache := w.cache.expire k }
    refine ⟨hf, fun key => (hc key).trans ?_⟩
    rw [VirtualCache.get?, VirtualCache.expire, Keyed.lookup_erase]
    by_cases hk : key = k <;> simp [hk, VirtualCache.get?]

/-- What is fetched for a key is put under it, unless the source knows nothing or fails. -/
theorem run_fetchInto {key : VirtualKey} :
    (fetchInto true key).run (answer source) w =
      let w' := { w with fetched := w.fetched ++ [(key, source w.fetched key)] }
      match source w.fetched key with
      | .error fault => (.error fault, w')
      | .ok none => (.ok (), w')
      | .ok (some values) => (.ok (), { w' with cache := w.cache.put key values }) := by
  unfold fetchInto
  rw [if_pos rfl, VirtualRequest.ask, run_request_bind]
  simp only [answer]
  rcases source w.fetched key with _ | _ | _ <;> rfl

theorem Fresh.fetch {key k : VirtualKey} {reply : Except Fault (Option (List String))}
    (h : w.Fresh k) : Fresh { w with fetched := w.fetched ++ [(key, reply)] } k :=
  fun values hv => List.mem_append_left _ (h values hv)

theorem spares_fetchInto {key : VirtualKey} (hk : keys key) :
    Spares keys w ((fetchInto hasSource key).run (answer source) w).2 := by
  rcases hasSource
  · exact .refl w
  rw [run_fetchInto]
  rcases hs : source w.fetched key with fault | _ | values
  · exact ⟨fun _ => Fresh.fetch, fun _ _ => rfl⟩
  · exact ⟨fun _ => Fresh.fetch, fun _ _ => rfl⟩
  · have hput (k : VirtualKey) : (w.cache.put key values).get? k =
        if k = key then some values else w.cache.get? k := Keyed.lookup_put
    refine ⟨fun k hfresh v hv => ?_, fun k hkept => ?_⟩
    · rw [hput] at hv
      split_ifs at hv with hkey
      · obtain rfl := Option.some.inj hv
        subst hkey
        exact List.mem_append_right _ (List.mem_singleton_self _)
      · exact hfresh.fetch v hv
    · refine (hput k).trans (if_neg ?_)
      rintro rfl
      exact hkept hk

/-- Wherever it is that the source fails, the subject has got no values but under the keys that were
loaded by then. -/
theorem spares_loadAll : ∀ {l : List VirtualKey} {s : Subject} {w : VirtualWorld}
    [DecidablePred keys], (∀ key ∈ l, keys key) →
      let run := (loadAll hasSource s l).run (answer source) w
      Spares keys w run.2 ∧ run.1.1.without keys = s.without keys
  | [], _, w, _, _ => ⟨.refl w, rfl⟩
  | key :: l, s, w, _, hl => by
    have hkey := hl key List.mem_cons_self
    have hfetch := spares_fetchInto source hasSource (w := w) hkey
    simp only
    rw [loadAll, run_bind]
    generalize (fetchInto hasSource key).run (answer source) w = fetched at hfetch ⊢
    obtain ⟨_ | ⟨⟩, w'⟩ := fetched
    · -- The source failed: nothing more is loaded.
      exact ⟨hfetch, rfl⟩
    · obtain ⟨hload, hs⟩ := spares_loadAll (s := s.setVirtual key (w'.cache.get? key)) (w := w')
        fun k hk => hl k (List.mem_cons_of_mem _ hk)
      exact ⟨hfetch.trans hload, hs.trans (Subject.without_setVirtual hkey)⟩

end VirtualWorld

open VirtualWorld in
/-- However a refresh ends, whatever the source answers at each fetch and whatever the cache had:
under each key that the mapping concerns the cache has nothing, or what the source answered for it
in this refresh. All its other entries are as they were, and the subject is the same but for values
under those keys. -/
theorem refresh_spares (source : ChangingSource) (hasSource : Bool) (s : Subject)
    (resource : Resource) (cache : VirtualCache) :
    let run := (refresh hasSource s resource).run (answer source) ⟨cache, []⟩
    (∀ key, s.Maps resource key → run.2.cache.get? key = none ∨
      ∃ values, run.2.cache.get? key = some values ∧ (key, .ok (some values)) ∈ run.2.fetched) ∧
    (∀ key, ¬s.Maps resource key → run.2.cache.get? key = cache.get? key) ∧
    run.1.1.without (s.Maps resource) = s.without (s.Maps resource) := by
  intro run
  let keys := s.virtualKeys resource
  let expired := ((expireAll keys).run (answer source) ⟨cache, []⟩).2
  have hrun : run = (loadAll hasSource s keys).run (answer source) expired := run_bind
  obtain ⟨-, hcache⟩ := run_expireAll source (l := keys) (w := ⟨cache, []⟩)
  obtain ⟨hload, hs⟩ := spares_loadAll source hasSource (l := keys) (s := s) (w := expired)
    fun key => Subject.mem_virtualKeys_iff.1
  rw [← hrun] at hload hs
  refine ⟨fun key hk => ?_, fun key hk => ?_, hs⟩
  · have hfresh : run.2.Fresh key := hload.fresh key fun values hv => by
      rw [hcache, if_pos (Subject.mem_virtualKeys_iff.2 hk)] at hv
      simp at hv
    rcases hget : run.2.cache.get? key with _ | values
    · exact .inl rfl
    · exact .inr ⟨values, rfl, hfresh values hget⟩
  · rw [hload.kept key hk, hcache, if_neg fun h => hk (Subject.mem_virtualKeys_iff.1 h)]

end Provisioning
