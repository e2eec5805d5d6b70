import Provisioning.Identifier
import Provisioning.Schema.Computed
import Provisioning.Schema.Plain

/-!
# Holders of attributes

Users, roles and memberships hold attributes of three sorts and are alike in that. An attribute is
found by the name of its schema; of several with one name the first counts.
-/

namespace Provisioning

inductive SubjectKind where
  | user
  | role
  | membership
  deriving DecidableEq, Repr

instance : Worded SubjectKind where
  all := [.user, .role, .membership]
  word
    | .user => "user"
    | .role => "role"
    | .membership => "membership"

structure Attributes where
  plain : List PlainAttribute
  /-- In the order in which they are computed. -/
  derived : List DerivedAttribute
  virtual : List VirtualAttribute
  deriving DecidableEq, Repr

namespace Attributes

def none : Attributes := ⟨[], [], []⟩

def addPlain (as : Attributes) (a : PlainAttribute) : Attributes :=
  { as with plain := as.plain ++ [a] }

def plain? (as : Attributes) (name : String) : Option PlainAttribute :=
  as.plain.find? fun a => a.schema.name == name

def derived? (as : Attributes) (name : String) : Option DerivedAttribute :=
  as.derived.find? fun a => a.schema.name == name

def virtual? (as : Attributes) (name : String) : Option VirtualAttribute :=
  as.virtual.find? fun a => a.schema.name == name

/-- Sets the values of the first virtual attribute with a name. -/
def setFirstVirtual (name : String) (values : Option (List String)) :
    List VirtualAttribute → List VirtualAttribute
  | [] => []
  | a :: rest =>
    if a.schema.name = name then { a with values := values } :: rest
    else a :: setFirstVirtual name values rest

def setVirtual (as : Attributes) (name : String) (values : Option (List String)) : Attributes :=
  { as with virtual := setFirstVirtual name values as.virtual }

instance : ToJson Attributes where
  toJson as := .obj (field "plain" as.plain ++ field "derived" as.derived ++
    field "virtual_attrs" as.virtual)

instance : FromJson Attributes where
  read? reading j := do
    let r ← Record.ofJson? reading ["plain", "derived", "virtual_attrs"] j
    return {
      plain := ← r.withDefault "plain" []
      derived := ← r.withDefault "derived" []
      virtual := ← r.withDefault "virtual_attrs" [] }

end Attributes

/-- What users, roles and memberships have in common. -/
structure Holder where
  kind : SubjectKind
  key : SubjectKey
  /-- The user's name, or the role's. -/
  label : String
  attributes : Attributes
  deriving DecidableEq

namespace Holder

/-- A field that identifies the holder. -/
def identity? (h : Holder) (field : String) : Option String :=
  if field = "key" then some h.key.text
  else if field = (match h.kind with | .user => "username" | _ => "name") then some h.label
  else none

def plain? (h : Holder) (name : String) : Option PlainAttribute :=
  h.attributes.plain? name

def derived? (h : Holder) (name : String) : Option DerivedAttribute :=
  h.attributes.derived? name

def virtual? (h : Holder) (name : String) : Option VirtualAttribute :=
  h.attributes.virtual? name

end Holder

end Provisioning
