import Provisioning.Connector.Error
import Provisioning.Execution.Status
import Provisioning.Mapping
import Provisioning.Password.Cipher
import Provisioning.Password.Policy
import Provisioning.Text.Quoted

/-!
# Faults of a propagation

Whatever can go wrong in a propagation is a fault. Only a timeout of the target system invites
another try. A fault that stands for the failure of some part has that failure as its cause, which
may have causes of its own. The short reason of a fault tells the first line of its cause; the
diagnostic tells the whole chain.
-/

namespace Provisioning

/-- Why a store did not do what it was asked for. -/
inductive StoreError where
  | unavailable (message : String)
  | taskNotFound (task : TaskId)
  | subjectNotFound (kind : SubjectKind) (key : SubjectKey)
  deriving DecidableEq, Repr

def StoreError.message : StoreError → String
  | .unavailable m => "Store unavailable: " ++ m
  | .taskNotFound task => "Task not found: " ++ task.text
  | .subjectNotFound kind key => "Subject not found: " ++ word kind ++ " " ++ key.text

inductive Fault where
  | validation (attributes : List String)
  | invalidPolicy (error : PolicyError)
  | remoteTimeout (resource : String) (error : ConnectorError)
  | remoteOperation (resource : String) (error : ConnectorError)
  | cacheConsistency (subject schema : String)
  | mapping (error : MappingError)
  | connectorNotFound (resource : String)
  | actionFailed (action message : String)
  | invalidTransition (source target : ExecutionStatus)
  | store (error : StoreError)
  | cipher (error : CipherError)
  deriving DecidableEq, Repr

namespace Fault

/-- The fault of a failed call to a resource. -/
def ofConnector (resource : String) (error : ConnectorError) : Fault :=
  if error.isTimeout then .remoteTimeout resource error else .remoteOperation resource error

def message : Fault → String
  | .validation attributes =>
    "Not attempted because there are mandatory attributes without value(s): " ++
      Text.Quoted.list attributes
  | .invalidPolicy e => "Invalid password policy: " ++ e.message
  | .remoteTimeout resource _ => "Remote timeout on " ++ resource
  | .remoteOperation resource _ => "Remote operation failed on " ++ resource
  | .cacheConsistency subject schema =>
    "Virtual attribute '" ++ schema ++ "' of " ++ subject ++
      " has no cached value and no pending change"
  | .mapping e => "Invalid mapping: " ++ e.message
  | .connectorNotFound resource => "Connector not found for resource " ++ resource
  | .actionFailed action m => "Propagation action '" ++ action ++ "' failed: " ++ m
  | .invalidTransition source target =>
    "Invalid execution status transition from " ++ word source ++ " to " ++ word target
  | .store e => "Task store error: " ++ e.message
  | .cipher e => "Cipher error: " ++ e.message

/-- A fixed word for each kind of fault. -/
def code : Fault → String
  | .validation _ => "VALIDATION_ERROR"
  | .invalidPolicy _ => "INVALID_POLICY"
  | .remoteTimeout _ _ => "REMOTE_TIMEOUT"
  | .remoteOperation _ _ => "REMOTE_OPERATION_ERROR"
  | .cacheConsistency _ _ => "CACHE_CONSISTENCY_ERROR"
  | .mapping _ => "MAPPING_ERROR"
  | .connectorNotFound _ => "CONNECTOR_NOT_FOUND"
  | .actionFailed _ _ => "ACTION_FAILED"
  | .invalidTransition _ _ => "INVALID_TRANSITION"
  | .store _ => "STORE_ERROR"
  | .cipher _ => "CIPHER_ERROR"

/-- The messages of the chain of causes, the nearest first. -/
def causes : Fault → List String
  | .invalidPolicy e => [e.message]
  | .remoteTimeout _ e => e.message :: e.causes
  | .remoteOperation _ e => e.message :: e.causes
  | .mapping e => [e.message]
  | .store e => [e.message]
  | .cipher e => [e.message]
  | _ => []

def isTimeout : Fault → Bool
  | .remoteTimeout _ _ => true
  | _ => false

/-- Whether the propagation may be tried again. -/
def isRetryable (f : Fault) : Bool :=
  f.isTimeout

/-- A text up to its first line end; a carriage return belongs to the line end after it. -/
def firstLine (s : String) : String :=
  let cs := s.toList
  let line := cs.takeWhile fun c => c != '\n'
  if line.length < cs.length ∧ line.getLast? = some '\r' then String.ofList line.dropLast
  else String.ofList line

/-- The message, with the first line of the nearest cause. -/
def shortReason (f : Fault) : String :=
  match f.causes with
  | [] => f.message
  | cause :: _ => f.message ++ "\n\n Cause: " ++ firstLine cause

/-- The message with the code and all causes. -/
def diagnostic (f : Fault) : String :=
  f.message ++ " [" ++ f.code ++ "]" ++
    String.join (f.causes.map fun cause => "\nCaused by: " ++ cause)

def kind : Fault → FailureKind
  | .validation _ => .validation
  | .invalidPolicy _ => .validation
  | .remoteTimeout _ _ => .timeout
  | .remoteOperation _ _ => .remote
  | .connectorNotFound _ => .remote
  | _ => .internal

end Fault

end Provisioning
