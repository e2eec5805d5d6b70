import Provisioning.Password.Policy
import Provisioning.Password.Stored
import Provisioning.Subject.Holder

/-!
# Subjects

What is provisioned is a user, a role or a membership. A user has memberships, and each membership
has the role that it is for; that is how subjects are nested.
-/

namespace Provisioning

/-- Who is responsible for a role. -/
inductive RoleOwner where
  | user (name : String)
  | role (name : String)
  deriving DecidableEq, Repr

structure Role where
  key : SubjectKey
  name : String
  owner : Option RoleOwner
  attributes : Attributes
  /-- The resources that are assigned. -/
  resources : List String
  /-- Applies to the passwords of the members. -/
  passwordPolicy : Option PasswordPolicy
  deriving DecidableEq

structure Membership where
  key : SubjectKey
  role : Role
  attributes : Attributes
  resources : List String
  deriving DecidableEq

structure User where
  key : SubjectKey
  username : String
  password : Option StoredPassword
  attributes : Attributes
  memberships : List Membership
  resources : List String
  deriving DecidableEq

inductive Subject where
  | user (user : User)
  | role (role : Role)
  | membership (membership : Membership)
  deriving DecidableEq

def RoleOwner.name : RoleOwner → String
  | .user name => name
  | .role name => name

/-- A role with nothing but a key and a name. -/
def Role.bare (key : SubjectKey) (name : String) : Role :=
  ⟨key, name, none, .none, [], none⟩

/-- A membership with nothing but a key and a role. -/
def Membership.bare (key : SubjectKey) (role : Role) : Membership :=
  ⟨key, role, .none, []⟩

/-- A user with nothing but a key and a name. -/
def User.bare (key : SubjectKey) (username : String) : User :=
  ⟨key, username, none, .none, [], []⟩

def User.roles (u : User) : List Role :=
  u.memberships.map Membership.role

def User.holder (u : User) : Holder :=
  ⟨.user, u.key, u.username, u.attributes⟩

def Role.holder (r : Role) : Holder :=
  ⟨.role, r.key, r.name, r.attributes⟩

/-- A membership goes by the name of its role. -/
def Membership.holder (m : Membership) : Holder :=
  ⟨.membership, m.key, m.role.name, m.attributes⟩

instance : ToJson RoleOwner where
  toJson
    | .user name => .obj (field "type" "user" ++ field "name" name)
    | .role name => .obj (field "type" "role" ++ field "name" name)

instance : FromJson RoleOwner where
  read? reading j := do
    let r ← Record.ofJson? reading ["type", "name"] j
    let name : String ← r.required "name"
    match ← r.kind? "type" ["user", "role"] with
    | "user" => return .user name
    | "role" => return .role name
    | _ => none

namespace Role

/-- The fields in which a role is written. -/
def fields (r : Role) : List (String × Json) :=
  field "key" r.key ++ field "name" r.name ++ fieldIfAny "owner" r.owner ++
    field "attributes" r.attributes ++ field "resources" r.resources ++
    fieldIfAny "password_policy" r.passwordPolicy

instance : ToJson Role := ⟨fun r => .obj r.fields⟩

instance : FromJson Role where
  read? reading j := do
    let r ← Record.ofJson? reading
      ["key", "name", "owner", "attributes", "resources", "password_policy"] j
    return {
      key := ← r.required "key"
      name := ← r.required "name"
      owner := ← r.withDefault "owner" none
      attributes := ← r.withDefault "attributes" .none
      resources := ← r.withDefault "resources" []
      passwordPolicy := ← r.withDefault "password_policy" none }

end Role

namespace Membership

def fields (m : Membership) : List (String × Json) :=
  field "key" m.key ++ field "role" m.role ++ field "attributes" m.attributes ++
    field "resources" m.resources

instance : ToJson Membership := ⟨fun m => .obj m.fields⟩

instance : FromJson Membership where
  read? reading j := do
    let r ← Record.ofJson? reading ["key", "role", "attributes", "resources"] j
    return {
      key := ← r.required "key"
      role := ← r.required "role"
      attributes := ← r.withDefault "attributes" .none
      resources := ← r.withDefault "resources" [] }

end Membership

namespace User

def fields (u : User) : List (String × Json) :=
  field "key" u.key ++ field "username" u.username ++ fieldIfAny "password" u.password ++
    field "attributes" u.attributes ++ field "memberships" u.memberships ++
    field "resources" u.resources

instance : ToJson User := ⟨fun u => .obj u.fields⟩

instance : FromJson User where
  read? reading j := do
    let r ← Record.ofJson? reading
      ["key", "username", "password", "attributes", "memberships", "resources"] j
    return {
      key := ← r.required "key"
      username := ← r.required "username"
      password := ← r.withDefault "password" none
      attributes := ← r.withDefault "attributes" .none
      memberships := ← r.withDefault "memberships" []
      resources := ← r.withDefault "resources" [] }

end User

namespace Subject

/-- The subject itself as a holder. -/
def holder : Subject → Holder
  | .user u => u.holder
  | .role r => r.holder
  | .membership m => m.holder

def kind (s : Subject) : SubjectKind :=
  s.holder.kind

def key (s : Subject) : SubjectKey :=
  s.holder.key

def resources : Subject → List String
  | .user u => u.resources
  | .role r => r.resources
  | .membership m => m.resources

/-- The roles whose policies apply to the subject. -/
def roles : Subject → List Role
  | .user u => u.roles
  | .role r => [r]
  | .membership m => [m.role]

instance : ToJson Subject where
  toJson
    | .user u => .obj (field "kind" SubjectKind.user ++ u.fields)
    | .role r => .obj (field "kind" SubjectKind.role ++ r.fields)
    | .membership m => .obj (field "kind" SubjectKind.membership ++ m.fields)

instance : FromJson Subject where
  read? _ j := do
    let tagged ← Tagged.ofJson? "kind" j
    match ← ofWord? tagged.tag with
    | SubjectKind.user => tagged.read?.map .user
    | SubjectKind.role => tagged.read?.map .role
    | SubjectKind.membership => tagged.read?.map .membership

end Subject

end Provisioning
