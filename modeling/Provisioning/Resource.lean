import Provisioning.Connector.Operation
import Provisioning.Mapping
import Provisioning.Password.Policy

/-!
# Resources

A resource is a target system to which subjects are propagated, with a mapping for each kind of
subject. For each operation it says which executions are kept: all, those that failed, or none.
-/

namespace Provisioning

inductive TraceLevel where
  | none
  | failures
  | all
  deriving DecidableEq, Repr

instance : Worded TraceLevel where
  all := [.none, .failures, .all]
  word
    | .none => "none"
    | .failures => "failures"
    | .all => "all"

/-- Whether failed executions are kept. -/
def TraceLevel.keepsFailures : TraceLevel → Bool
  | .none => false
  | .failures => true
  | .all => true

structure Resource where
  key : String
  /-- The connector to the target system. -/
  connector : String
  createTrace : TraceLevel
  updateTrace : TraceLevel
  deleteTrace : TraceLevel
  mode : Mode
  /-- A template for the external name, when it is not the account id. -/
  accountLink : Option String
  userMapping : Option Mapping
  roleMapping : Option Mapping
  membershipMapping : Option Mapping
  /-- Whether a password is made up when there is none to send. -/
  randomPassword : Bool
  /-- Whether a failure stops the batch. -/
  priority : Bool
  passwordPolicy : Option PasswordPolicy
  deriving DecidableEq, Repr

namespace Resource

/-- A resource with nothing but a key and a connector. -/
def bare (key connector : String) : Resource :=
  ⟨key, connector, .failures, .failures, .failures, .onePhase, none, none, none, none, false, false,
    none⟩

/-- The same level for all operations. -/
def withTrace (r : Resource) (level : TraceLevel) : Resource :=
  { r with createTrace := level, updateTrace := level, deleteTrace := level }

def mapping? (r : Resource) : SubjectKind → Option Mapping
  | .user => r.userMapping
  | .role => r.roleMapping
  | .membership => r.membershipMapping

def trace (r : Resource) : Operation → TraceLevel
  | .create => r.createTrace
  | .update => r.updateTrace
  | .delete => r.deleteTrace

instance : ToJson Resource where
  toJson r := .obj (field "key" r.key ++ field "connector" r.connector ++
    field "create_trace_level" r.createTrace ++ field "update_trace_level" r.updateTrace ++
    field "delete_trace_level" r.deleteTrace ++ field "propagation_mode" r.mode ++
    fieldIfAny "account_link" r.accountLink ++ fieldIfAny "user_mapping" r.userMapping ++
    fieldIfAny "role_mapping" r.roleMapping ++
    fieldIfAny "membership_mapping" r.membershipMapping ++
    field "random_password_if_not_provided" r.randomPassword ++
    field "propagation_priority" r.priority ++ fieldIfAny "password_policy" r.passwordPolicy)

instance : FromJson Resource where
  read? reading j := do
    let r ← Record.ofJson? reading ["key", "connector", "create_trace_level", "update_trace_level",
      "delete_trace_level", "propagation_mode", "account_link", "user_mapping", "role_mapping",
      "membership_mapping", "random_password_if_not_provided", "propagation_priority",
      "password_policy"] j
    return {
      key := ← r.required "key"
      connector := ← r.required "connector"
      createTrace := ← r.withDefault "create_trace_level" .failures
      updateTrace := ← r.withDefault "update_trace_level" .failures
      deleteTrace := ← r.withDefault "delete_trace_level" .failures
      mode := ← r.withDefault "propagation_mode" .onePhase
      accountLink := ← r.withDefault "account_link" none
      userMapping := ← r.withDefault "user_mapping" none
      roleMapping := ← r.withDefault "role_mapping" none
      membershipMapping := ← r.withDefault "membership_mapping" none
      randomPassword := ← r.withDefault "random_password_if_not_provided" false
      priority := ← r.withDefault "propagation_priority" false
      passwordPolicy := ← r.withDefault "password_policy" none }

end Resource

end Provisioning
