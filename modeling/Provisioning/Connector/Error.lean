/-!
# Failures of target systems

A failed call says why. Some failures pass by themselves, so that the call may be tried again; a
timeout is told apart from all others. A failure may have further causes behind it, each the cause
of the one before.
-/

namespace Provisioning

inductive ConnectorError where
  | connectionFailed (message : String) (causes : List String)
  | timeout (seconds : Nat)
  | targetUnavailable (message : String)
  | authenticationFailed
  | authorizationFailed (operation : String)
  | objectAlreadyExists (identifier : String)
  | objectNotFound (identifier : String)
  | unsupportedObjectClass (objectClass : String)
  | constraintViolation (message : String)
  | invalidData (message : String)
  | operationFailed (message : String) (causes : List String)
  deriving DecidableEq, Repr

namespace ConnectorError

def message : ConnectorError → String
  | .connectionFailed m _ => "connection failed: " ++ m
  | .timeout n => "operation timed out after " ++ toString n ++ " seconds"
  | .targetUnavailable m => "target system unavailable: " ++ m
  | .authenticationFailed => "authentication failed: invalid credentials"
  | .authorizationFailed o => "authorization failed: insufficient permissions for " ++ o
  | .objectAlreadyExists i => "object already exists: " ++ i
  | .objectNotFound i => "object not found: " ++ i
  | .unsupportedObjectClass c => "object class '" ++ c ++ "' not supported"
  | .constraintViolation m => "constraint violation: " ++ m
  | .invalidData m => "invalid data: " ++ m
  | .operationFailed m _ => "operation failed: " ++ m

/-- A fixed word for each kind of failure. -/
def code : ConnectorError → String
  | .connectionFailed _ _ => "CONNECTION_FAILED"
  | .timeout _ => "TIMEOUT"
  | .targetUnavailable _ => "TARGET_UNAVAILABLE"
  | .authenticationFailed => "AUTH_FAILED"
  | .authorizationFailed _ => "AUTHORIZATION_FAILED"
  | .objectAlreadyExists _ => "OBJECT_EXISTS"
  | .objectNotFound _ => "OBJECT_NOT_FOUND"
  | .unsupportedObjectClass _ => "UNSUPPORTED_OBJECT_CLASS"
  | .constraintViolation _ => "CONSTRAINT_VIOLATION"
  | .invalidData _ => "INVALID_DATA"
  | .operationFailed _ _ => "OPERATION_FAILED"

/-- The messages of the causes behind a failure, the nearest first. -/
def causes : ConnectorError → List String
  | .connectionFailed _ causes => causes
  | .operationFailed _ causes => causes
  | _ => []

/-- Whether the failure may pass by itself. -/
def isTransient : ConnectorError → Bool
  | .connectionFailed _ _ => true
  | .timeout _ => true
  | .targetUnavailable _ => true
  | _ => false

def isPermanent (e : ConnectorError) : Bool :=
  !e.isTransient

def isTimeout : ConnectorError → Bool
  | .timeout _ => true
  | _ => false

def isNotFound : ConnectorError → Bool
  | .objectNotFound _ => true
  | _ => false

end ConnectorError

end Provisioning
