import Provisioning.Keyed
import Provisioning.Subject.Holder

/-!
# The cache of virtual attributes

The values of virtual attributes are kept by the kind and key of their holder and the name of their
schema. To expire an entry is to drop it.
-/

namespace Provisioning

structure VirtualKey where
  kind : SubjectKind
  holder : SubjectKey
  schema : String
  deriving DecidableEq, Repr

def VirtualKey.text (k : VirtualKey) : String :=
  word k.kind ++ " " ++ k.holder.text ++ " " ++ k.schema

structure VirtualCache where
  entries : List (VirtualKey × List String)

namespace VirtualCache

def empty : VirtualCache := ⟨[]⟩

def get? (c : VirtualCache) (key : VirtualKey) : Option (List String) :=
  c.entries.lookup key

def put (c : VirtualCache) (key : VirtualKey) (values : List String) : VirtualCache :=
  ⟨Keyed.put key values c.entries⟩

def expire (c : VirtualCache) (key : VirtualKey) : VirtualCache :=
  ⟨Keyed.erase key c.entries⟩

def size (c : VirtualCache) : Nat :=
  c.entries.length

end VirtualCache

end Provisioning
