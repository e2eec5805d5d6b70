import Provisioning.Fault
import Provisioning.Program
import Provisioning.Resource
import Provisioning.Subject.Related
import Provisioning.Virtual.Cache

/-!
# Refreshing virtual attributes

Before a subject is propagated, the cached values of every virtual attribute that the mapping reads
are dropped, then fetched again if there is a source, and the subject gets what the cache has after
that. For a user the attributes of that name on its memberships are refreshed too. A source may
answer that it does not know, which leaves the values unknown, or fail, which ends the refresh.
-/

namespace Provisioning

/-- What a refresh asks of the cache and of the source. -/
inductive VirtualRequest where
  | expire (key : VirtualKey)
  | fetch (key : VirtualKey)
  | put (key : VirtualKey) (values : List String)
  | get (key : VirtualKey)

/-- The answers that fit the requests. -/
abbrev VirtualRequest.Answer : VirtualRequest → Type
  | .expire _ => Unit
  | .fetch _ => Except Fault (Option (List String))
  | .put _ _ => Unit
  | .get _ => Option (List String)

abbrev VirtualProgram := Program VirtualRequest VirtualRequest.Answer

def VirtualRequest.ask (r : VirtualRequest) : VirtualProgram r.Answer :=
  .request r

namespace Subject

/-- The holders whose virtual attributes an item of a mapping concerns. -/
def virtualHolders (s : Subject) (owner : SubjectKind) : List Holder :=
  s.related owner ++
    if s.kind = .user ∧ owner ≠ .membership then s.related .membership else []

/-- The cache keys that an item of a mapping concerns. -/
def itemKeys (s : Subject) (item : MappingItem) : List VirtualKey :=
  match item.internalKind with
  | .attributeOf owner .virtual =>
    (s.virtualHolders owner).map fun h => ⟨h.kind, h.key, item.internalName⟩
  | _ => []

/-- The cache keys that a resource's mapping concerns; there may be repetitions. -/
def virtualKeys (s : Subject) (resource : Resource) : List VirtualKey :=
  match resource.mapping? s.kind with
  | some mapping => mapping.propagationItems.flatMap s.itemKeys
  | none => []

/-- Sets the values of the virtual attribute that a key names, if the subject has it. -/
def setVirtual (s : Subject) (key : VirtualKey) (values : Option (List String)) : Subject :=
  (s.changeAttributes key.kind key.holder fun as => as.setVirtual key.schema values).getD s

end Subject

/-- Drops the cached values of all keys. -/
def expireAll : List VirtualKey → VirtualProgram Unit
  | [] => return ()
  | key :: rest => do
    VirtualRequest.ask (.expire key)
    expireAll rest

/-- Fetches the values of a key into the cache, if there is a source. -/
def fetchInto (hasSource : Bool) (key : VirtualKey) : VirtualProgram (Except Fault Unit) := do
  if hasSource then
    match ← VirtualRequest.ask (.fetch key) with
    | .error fault => return .error fault
    | .ok none => return .ok ()
    | .ok (some values) =>
      VirtualRequest.ask (.put key values)
      return .ok ()
  else return .ok ()

/-- Loads the values of all keys into a subject, until a source fails. -/
def loadAll (hasSource : Bool) (s : Subject) :
    List VirtualKey → VirtualProgram (Subject × Except Fault Unit)
  | [] => return (s, .ok ())
  | key :: rest => do
    match ← fetchInto hasSource key with
    | .error fault => return (s, .error fault)
    | .ok () =>
      let values ← VirtualRequest.ask (.get key)
      loadAll hasSource (s.setVirtual key values) rest

/-- Refreshes the virtual attributes that a resource's mapping reads. The subject is as the refresh
leaves it, also when a source fails. -/
def refresh (hasSource : Bool) (s : Subject) (resource : Resource) :
    VirtualProgram (Subject × Except Fault Unit) := do
  let keys := s.virtualKeys resource
  expireAll keys
  loadAll hasSource s keys

/-- What a source knows of a key. -/
abbrev VirtualSource := VirtualKey → Except Fault (Option (List String))

/-- Answers a request from a cache and a source. -/
def VirtualCache.answer (source : VirtualSource) :
    (r : VirtualRequest) → VirtualCache → r.Answer × VirtualCache
  | .expire key, c => ((), c.expire key)
  | .fetch key, c => (source key, c)
  | .put key values, c => ((), c.put key values)
  | .get key, c => (c.get? key, c)

end Provisioning
