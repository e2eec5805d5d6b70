import Provisioning.Connector.Operation

/-!
# Where an execution stands

An execution is created and then ends. In one phase it ends with success or failure. In two phases
it is submitted or not, and ends for good when success or failure is reported later.
-/

namespace Provisioning

inductive ExecutionStatus where
  | created
  | success
  | failure
  | submitted
  | unsubmitted
  deriving DecidableEq, Repr

instance : Worded ExecutionStatus where
  all := [.created, .success, .failure, .submitted, .unsubmitted]
  word
    | .created => "created"
    | .success => "success"
    | .failure => "failure"
    | .submitted => "submitted"
    | .unsubmitted => "unsubmitted"

namespace ExecutionStatus

/-- The status after a call, by whether it went well. -/
def outcome : Mode → Bool → ExecutionStatus
  | .onePhase, true => .success
  | .onePhase, false => .failure
  | .twoPhases, true => .submitted
  | .twoPhases, false => .unsubmitted

/-- Whether a later report can settle the execution. -/
def isReportable : ExecutionStatus → Bool
  | .submitted => true
  | .unsubmitted => true
  | _ => false

/-- Whether the execution is over for good. -/
def isSettled : ExecutionStatus → Bool
  | .success => true
  | .failure => true
  | _ => false

/-- Whether one status can follow another. -/
def canBecome (s next : ExecutionStatus) : Bool :=
  match s with
  | .created => next != .created
  | .submitted => next.isSettled
  | .unsubmitted => next.isSettled
  | .success => false
  | .failure => false

/-- Whether the change went through, or was taken on for later. -/
def isSuccessful : ExecutionStatus → Bool
  | .success => true
  | .submitted => true
  | _ => false

def isFailure : ExecutionStatus → Bool
  | .failure => true
  | .unsubmitted => true
  | _ => false

end ExecutionStatus

/-- The sorts of failures. -/
inductive FailureKind where
  | validation
  | timeout
  | remote
  | internal
  deriving DecidableEq, Repr

instance : Worded FailureKind where
  all := [.validation, .timeout, .remote, .internal]
  word
    | .validation => "validation"
    | .timeout => "timeout"
    | .remote => "remote"
    | .internal => "internal"

end Provisioning
