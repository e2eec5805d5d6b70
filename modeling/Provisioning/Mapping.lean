import Provisioning.Connector.Object
import Provisioning.Subject.Holder

/-!
# Mappings

A mapping says how subjects of one kind look on a resource: each item takes one internal value, an
attribute, an identity field or the password, to one external attribute. Exactly one item gives the
account id, and at most one the password. An item may be meant for propagation, for
synchronization, for both or for neither.
-/

namespace Provisioning

/-- The sorts of attributes. -/
inductive AttributeSort where
  | plain
  | derived
  | virtual
  deriving DecidableEq, Repr

instance : Worded AttributeSort where
  all := [.plain, .derived, .virtual]
  word
    | .plain => "plain"
    | .derived => "derived"
    | .virtual => "virtual"

/-- What an item reads, and whose it is. -/
inductive InternalKind where
  | attributeOf (owner : SubjectKind) (sort : AttributeSort)
  | idOf (owner : SubjectKind)
  | username
  | roleName
  | roleOwner
  | password
  deriving DecidableEq, Repr

instance : Worded InternalKind where
  all := (Worded.all.flatMap fun owner => Worded.all.map (InternalKind.attributeOf owner)) ++
    Worded.all.map InternalKind.idOf ++ [.username, .roleName, .roleOwner, .password]
  word
    | .attributeOf owner sort => word owner ++ "_" ++ word sort
    | .idOf owner => word owner ++ "_id"
    | .username => "username"
    | .roleName => "role_name"
    | .roleOwner => "role_owner"
    | .password => "password"

namespace InternalKind

/-- The kind of the holders that are read. -/
def owner : InternalKind → SubjectKind
  | .attributeOf owner _ => owner
  | .idOf owner => owner
  | .username => .user
  | .roleName => .role
  | .roleOwner => .role
  | .password => .user

/-- The sort of attribute that is read, if one is. -/
def sort? : InternalKind → Option AttributeSort
  | .attributeOf _ sort => some sort
  | _ => none

end InternalKind

inductive MappingPurpose where
  | both
  | propagation
  | synchronization
  | none
  deriving DecidableEq, Repr

instance : Worded MappingPurpose where
  all := [.both, .propagation, .synchronization, .none]
  word
    | .both => "both"
    | .propagation => "propagation"
    | .synchronization => "synchronization"
    | .none => "none"

def MappingPurpose.includesPropagation : MappingPurpose → Bool
  | .both => true
  | .propagation => true
  | .synchronization => false
  | .none => false

structure MappingItem where
  internalName : String
  internalKind : InternalKind
  externalName : String
  isAccountId : Bool
  isPassword : Bool
  /-- Whether the values are always sent as a list. -/
  multivalue : Bool
  /-- When a value must be there on creation. -/
  mandatoryCondition : String
  purpose : MappingPurpose
  deriving DecidableEq, Repr

namespace MappingItem

/-- An item that nothing special is said about. -/
def simple (internalName : String) (kind : InternalKind) (externalName : String) : MappingItem :=
  ⟨internalName, kind, externalName, false, false, false, "false", .both⟩

/-- The item for the subject's password. -/
def forPassword : MappingItem :=
  { simple "password" .password passwordAttribute with isPassword := true }

/-- Whether the item gives a password, by its flag or by what it reads. -/
def givesPassword (i : MappingItem) : Bool :=
  i.isPassword || i.internalKind == .password

def inPropagation (i : MappingItem) : Bool :=
  i.purpose.includesPropagation

instance : ToJson MappingItem where
  toJson i := .obj (field "internal_name" i.internalName ++
    field "internal_kind" i.internalKind ++ field "external_name" i.externalName ++
    field "account_id" i.isAccountId ++ field "password" i.isPassword ++
    field "multivalue" i.multivalue ++ field "mandatory_condition" i.mandatoryCondition ++
    field "purpose" i.purpose)

instance : FromJson MappingItem where
  read? reading j := do
    let r ← Record.ofJson? reading ["internal_name", "internal_kind", "external_name", "account_id",
      "password", "multivalue", "mandatory_condition", "purpose"] j
    return {
      internalName := ← r.required "internal_name"
      internalKind := ← r.required "internal_kind"
      externalName := ← r.required "external_name"
      isAccountId := ← r.withDefault "account_id" false
      isPassword := ← r.withDefault "password" false
      multivalue := ← r.withDefault "multivalue" false
      mandatoryCondition := ← r.withDefault "mandatory_condition" "false"
      purpose := ← r.withDefault "purpose" .both }

end MappingItem

structure Mapping where
  /-- The class of the objects on the resource. -/
  objectClass : String
  items : List MappingItem
  deriving DecidableEq, Repr

/-- What is wrong with the mapping of a resource. -/
inductive MappingError where
  | noMapping (resource : String) (kind : SubjectKind)
  | accountIdCount (resource : String) (kind : SubjectKind) (count : Nat)
  | passwordCount (resource : String) (kind : SubjectKind) (count : Nat)
  deriving DecidableEq, Repr

def MappingError.message : MappingError → String
  | .noMapping resource kind => "Resource " ++ resource ++ " has no " ++ word kind ++ " mapping"
  | .accountIdCount resource kind count =>
    "Mapping of " ++ resource ++ " for " ++ word kind ++
      " must have exactly one account id item, found " ++ toString count
  | .passwordCount resource kind count =>
    "Mapping of " ++ resource ++ " for " ++ word kind ++ " has " ++ toString count ++
      " password items"

/-- A fixed word for each kind of error. -/
def MappingError.code : MappingError → String
  | .noMapping _ _ => "no_mapping"
  | .accountIdCount _ _ _ => "account_id_count"
  | .passwordCount _ _ _ => "password_count"

namespace Mapping

def accountIdItem? (m : Mapping) : Option MappingItem :=
  m.items.find? MappingItem.isAccountId

def passwordItem? (m : Mapping) : Option MappingItem :=
  m.items.find? MappingItem.isPassword

/-- The items that take part in propagation. -/
def propagationItems (m : Mapping) : List MappingItem :=
  m.items.filter MappingItem.inPropagation

/-- Checks the numbers of account id items and of password items. -/
def validate (m : Mapping) (resource : String) (kind : SubjectKind) : Except MappingError Unit :=
  let accountIds := (m.items.filter MappingItem.isAccountId).length
  let passwords := (m.items.filter MappingItem.isPassword).length
  if accountIds ≠ 1 then .error (.accountIdCount resource kind accountIds)
  else if 1 < passwords then .error (.passwordCount resource kind passwords)
  else .ok ()

instance : ToJson Mapping where
  toJson m := .obj (field "object_class" m.objectClass ++ field "items" m.items)

instance : FromJson Mapping where
  read? reading j := do
    let r ← Record.ofJson? reading ["object_class", "items"] j
    return { objectClass := ← r.required "object_class", items := ← r.required "items" }

end Mapping

end Provisioning
