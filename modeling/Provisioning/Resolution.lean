import Provisioning.Fault
import Provisioning.Password.Generation
import Provisioning.Subject.Related
import Provisioning.Task.Basic
import Provisioning.Template

/-!
# Resolving a mapping

A subject is put into the words of a resource: its account id, its external name and the attributes
that the resource should have. Each item of the mapping that takes part in propagation contributes
the values of all holders that it reads, or is left out. The account id item gives the account id, a
password item the password; the other items share out the attributes, and where several have one
external name their values are united.

An item without a value whose mandatory condition holds is listed in a marker attribute, one for
items that the subject does not have at all and one for items that have no value.

Virtual attributes that are read-only are never sent. The others need known values, or a change that
is under way; such changes concern the subject itself only.
-/

namespace Provisioning

/-- Changes of the subject's own virtual attributes that are not stored yet, by name. -/
structure VirtualChanges where
  toUpdate : List (String × List String)
  toRemove : List String
  deriving DecidableEq, Repr

namespace VirtualChanges

def none : VirtualChanges := ⟨[], []⟩

/-- The values that a name is about to have. -/
def pending? (c : VirtualChanges) (name : String) : Option (List String) :=
  if c.toRemove.contains name then some [] else c.toUpdate.lookup name

end VirtualChanges

structure ResolutionRequest where
  subject : Subject
  resource : Resource
  operation : Operation
  /-- The new password in the clear. -/
  password : Option String
  changes : VirtualChanges

/-- A subject in the words of a resource. -/
structure Resolution where
  accountId : Option String
  name : Option String
  attributes : AttributeSet

/-- What an item gives. -/
structure Contribution where
  values : List AttributeValue
  /-- Whether there is something that could have values. -/
  present : Bool
  multivalue : Bool

structure Resolver where
  retries : UInt32
  cipher : Option PasswordCipher
  globalPolicy : Option PasswordPolicy

namespace Resolver

def plainContribution (holders : List Holder) (name : String) (multivalue : Bool) :
    Contribution :=
  let found := holders.filterMap fun h => h.plain? name
  { values := found.flatMap PlainAttribute.attributeValues
    present := !found.isEmpty
    multivalue := multivalue || found.any fun a => a.schema.multivalue }

def derivedContribution (holders : List Holder) (name : String) (multivalue : Bool) :
    Contribution :=
  { values := holders.filterMap fun h => (h.derivedValue? name).map .string
    present := holders.any fun h => (h.derived? name).isSome
    multivalue := multivalue }

/-- The values of a virtual attribute: those it is about to have, if it is the subject's own, else
those it is known to have. -/
def virtualValues (request : ResolutionRequest) (h : Holder) (name : String)
    (a : VirtualAttribute) : Except Fault (List String) :=
  let pending := if h.kind = request.subject.kind then request.changes.pending? name else none
  match pending, a.values with
  | some values, _ => .ok values
  | none, some values => .ok values
  | none, none => .error (.cacheConsistency (word h.kind ++ " " ++ h.key.text) name)

/-- Collects the values of a virtual attribute from one holder after the other. The first that is
read-only leaves the item out, the first whose values are unknown is a fault. -/
def virtualContribution (request : ResolutionRequest) (name : String) (sum : Contribution) :
    List Holder → Except Fault (Option Contribution)
  | [] => .ok (some sum)
  | h :: rest =>
    match h.virtual? name with
    | none => virtualContribution request name sum rest
    | some a =>
      if a.schema.readOnly then .ok none
      else do
        let values ← virtualValues request h name a
        virtualContribution request name
          { values := sum.values ++ values.map .string
            present := true
            multivalue := sum.multivalue || a.schema.multivalue } rest

/-- The texts of an identity item. -/
def identityTexts (subject : Subject) : InternalKind → List String
  | .idOf owner => (subject.related owner).map fun h => h.key.text
  | .username => (subject.related .user).filterMap fun h => h.identity? "username"
  | .roleName => (subject.related .role).filterMap fun h => h.identity? "name"
  | .roleOwner => subject.roles.filterMap fun r => r.owner.map RoleOwner.name
  | _ => []

/-- What an item other than a password's gives, or nothing when it is left out. -/
def contribution (request : ResolutionRequest) (item : MappingItem) :
    Except Fault (Option Contribution) :=
  let subject := request.subject
  let owner := item.internalKind.owner
  let holders := subject.related owner
  let multivalue := item.multivalue || owner != subject.kind
  match item.internalKind with
  | .attributeOf _ .plain => .ok (some (plainContribution holders item.internalName multivalue))
  | .attributeOf _ .derived =>
    .ok (some (derivedContribution holders item.internalName multivalue))
  | .attributeOf _ .virtual =>
    virtualContribution request item.internalName ⟨[], false, multivalue⟩ holders
  | .password => .ok none
  | kind =>
    let texts := identityTexts subject kind
    .ok (some ⟨texts.map .string, !texts.isEmpty, multivalue⟩)

/-- The policies that apply: the global one, those of the roles, that of the resource. -/
def policies (resolver : Resolver) (request : ResolutionRequest) : List PasswordPolicy :=
  resolver.globalPolicy.toList ++ request.subject.roles.filterMap Role.passwordPolicy ++
    request.resource.passwordPolicy.toList

/-- The stored password in the clear, if there is one that can be decoded. -/
def storedPassword? (resolver : Resolver) (user : User) : Option String := do
  ((← resolver.cipher).decode (← user.password)).toOption

/-- The password to send for a user: the new one, on creation also the stored one, or else one that
is made up if the resource wants that and any policy applies. -/
def password (resolver : Resolver) (request : ResolutionRequest) (draws : Draws) :
    Except Fault (Option String) :=
  match request.subject with
  | .user user =>
    match request.password with
    | some clear => .ok (some clear)
    | none =>
      if request.operation ≠ .create then .ok none
      else match resolver.storedPassword? user with
        | some clear => .ok (some clear)
        | none =>
          let policies := resolver.policies request
          if !request.resource.randomPassword || policies.isEmpty then .ok none
          else match PasswordPolicy.generateFor policies resolver.retries draws with
            | .ok clear => .ok (some clear)
            | .error e => .error (.invalidPolicy e)
  | _ => .ok none

/-- What a password item gives. Without a password it is left out, except on creation. -/
def passwordContribution (resolver : Resolver) (request : ResolutionRequest) (draws : Draws) :
    Except Fault (Option Contribution) := do
  match ← resolver.password request draws with
  | some clear => return some ⟨[.string clear], true, false⟩
  | none => return if request.operation = .create then some ⟨[], false, false⟩ else none

def itemContribution (resolver : Resolver) (request : ResolutionRequest) (draws : Draws)
    (item : MappingItem) : Except Fault (Option Contribution) :=
  if item.givesPassword then resolver.passwordContribution request draws
  else contribution request item

/-- What the items so far have come to. -/
structure Draft where
  accountId : Option String
  /-- Mandatory attributes that the subject does not have. -/
  missing : List String
  /-- Mandatory attributes without a value. -/
  empty : List String
  attributes : AttributeSet

namespace Draft

def start : Draft := ⟨none, [], [], .empty⟩

/-- Lists an item whose value is mandatory and not there. -/
def mark (d : Draft) (holder : Holder) (item : MappingItem) (c : Contribution) : Draft :=
  if c.values.isEmpty && holder.satisfies item.mandatoryCondition then
    if c.present then { d with empty := d.empty ++ [item.externalName] }
    else { d with missing := d.missing ++ [item.externalName] }
  else d

/-- The value that a contribution gives to an attribute. -/
def value (c : Contribution) : AttributeValue :=
  if c.multivalue then .array c.values else c.values.headD .null

/-- Takes in the values of an item. -/
def take (d : Draft) (item : MappingItem) (c : Contribution) : Draft :=
  if item.isAccountId then
    { d with accountId := c.values.head?.bind AttributeValue.text? }
  else if item.givesPassword then
    match c.values.head? with
    | some clear => { d with attributes := d.attributes.set passwordAttribute clear }
    | none => d
  else { d with attributes := d.attributes.merge item.externalName (value c) }

/-- Takes in what an item gives, if it is not left out. -/
def add (d : Draft) (holder : Holder) (item : MappingItem) : Option Contribution → Draft
  | none => d
  | some c => (d.mark holder item c).take item c

end Draft

/-- Takes in all items in order. -/
def draft (resolver : Resolver) (request : ResolutionRequest) (draws : Draws)
    (items : List MappingItem) : Except Fault Draft :=
  items.foldlM (fun d item => do
    return d.add request.subject.holder item (← resolver.itemContribution request draws item))
    .start

/-- Sets an attribute if there is a value for it. -/
def setIfAny (name : String) (value : Option String) (s : AttributeSet) : AttributeSet :=
  match value with
  | some v => s.set name (.string v)
  | none => s

/-- Lists names in an attribute if there are any. -/
def listIfAny (name : String) (names : List String) (s : AttributeSet) : AttributeSet :=
  if names.isEmpty then s else s.set name (.strings names)

/-- The attribute in which the account id is sent: that of its item, unless the identifier itself is
meant. -/
def accountIdAttribute? (mapping : Mapping) : Option String := do
  let item ← mapping.accountIdItem?
  if item.externalName = uidAttribute then none else some item.externalName

/-- Adds account id, name and markers to the attributes. -/
def finish (request : ResolutionRequest) (mapping : Mapping) (d : Draft) : Resolution :=
  let accountId := d.accountId.bind Text.nonBlank?
  let name := (request.resource.accountLink.bind request.subject.holder.evaluate?).or accountId
  let attributes := match accountIdAttribute? mapping with
    | some external => setIfAny external accountId d.attributes
    | none => d.attributes
  { accountId := accountId
    name := name
    attributes := listIfAny emptyMarker d.empty
      (listIfAny missingMarker d.missing (setIfAny nameAttribute name attributes)) }

/-- The valid mapping for the subject. -/
def mappingFor (request : ResolutionRequest) : Except Fault Mapping :=
  let kind := request.subject.kind
  match request.resource.mapping? kind with
  | none => .error (.mapping (.noMapping request.resource.key kind))
  | some mapping =>
    match mapping.validate request.resource.key kind with
    | .error e => .error (.mapping e)
    | .ok () => .ok mapping

/-- Resolves a mapping. A password that has to be made up is drawn from the same numbers for every
item, so that it is the same for all of them; what is said of two resolutions with the same draws is
said of them with the same password made up. -/
def resolve (resolver : Resolver) (request : ResolutionRequest) (draws : Draws) :
    Except Fault Resolution := do
  let mapping ← mappingFor request
  let d ← resolver.draft request draws mapping.propagationItems
  return finish request mapping d

end Resolver

end Provisioning
