import Provisioning.Execution.Decision
import Provisioning.Execution.Request
import Provisioning.Report
import Provisioning.Settings

/-!
# Executing tasks

A task is executed once: the object is read under its former account id, or its account id; the
actions are called; then at most one call changes the target system. A delete spares an object whose
subject is still assigned to the resource, and brings it up to date instead.

A read that times out is a failure; any other failed read counts as an absent object. The refusal of
a new object for want of mandatory values is the only fault that an execution ends with. All other
faults end up in the execution, which is then read back, registered as the trace level says, and
told to the sinks and to the actions. Whatever fails from there on changes nothing.
-/

namespace Provisioning

namespace Task

/-- Reads the object of an account id, if there is one to look for. -/
def read (t : Task) (stage : Stage) (accountId : Option String) :
    ExecutionProgram (Except Fault (Option RemoteObject)) :=
  match accountId.filter fun id => id != "" with
  | none => return .ok none
  | some id => do
    match ← (Request.read stage t (t.uid id) t.namesToRead).ask with
    | .ok object => return .ok object
    | .error e =>
      if e.isTimeout then return .error (.ofConnector t.resource.key e) else return .ok none

/-- Calls the actions before the change, up to a fatal failure. -/
def runBefore (t : Task) (object : Option RemoteObject) :
    Nat → List Action → ExecutionProgram (Except Fault Unit)
  | _, [] => return .ok ()
  | place, action :: rest => do
    match ← (Request.actBefore place action t object).ask with
    | .ok () => t.runBefore object (place + 1) rest
    | .error e =>
      if action.criticality = .fatal then return .error (.actionFailed action.name e.message)
      else t.runBefore object (place + 1) rest

/-- Calls the actions after the change. -/
def runAfter (t : Task) (execution : Execution) (object : Option RemoteObject) :
    Nat → List Action → ExecutionProgram Unit
  | _, [] => return ()
  | place, action :: rest => do
    let _ ← (Request.actAfter place action t execution object).ask
    t.runAfter execution object (place + 1) rest

/-- Decides about the object of a delete. -/
def decideDelete (t : Task) : Option RemoteObject → ExecutionProgram (Except Fault Decision)
  | none => return .ok .nothing
  | some object => do
    match ← (Request.resourceNames t.subjectKind t.subjectKey).ask with
    | .ok names =>
      if names.contains t.resource.key then return .ok (t.converge (some object))
      else return .ok (.delete object.uid)
    | .error (.subjectNotFound _ _) => return .ok (.delete object.uid)
    | .error e => return .error (.store e)

def decide (t : Task) (object : Option RemoteObject) :
    ExecutionProgram (Except Fault Decision) :=
  match t.operation with
  | .create => return .ok (t.converge object)
  | .update => return .ok (t.converge object)
  | .delete => t.decideDelete object

/-- What a call to the target system comes to: something was changed, or a fault. -/
def called {α : Type} (t : Task) (result : Except ConnectorError α) : Except Fault Bool :=
  match result with
  | .ok _ => .ok true
  | .error e => .error (.ofConnector t.resource.key e)

/-- Does what was decided, and says whether the target system was asked for a change. -/
def carryOut (t : Task) : Decision → ExecutionProgram (Except Fault Bool)
  | .refuse names => return .error (.validation names)
  | .nothing => return .ok false
  | .create attributes => do return t.called (← (Request.create t attributes).ask)
  | .update uid attributes => do return t.called (← (Request.update t uid attributes).ask)
  | .delete uid => do return t.called (← (Request.delete t uid).ask)

/-- The account id that the object has before the change. -/
def accountIdBefore (t : Task) : Option String :=
  t.oldAccountId.or t.accountId

/-- The part of an execution that may change the target system, with the object that was read. -/
def propagate (t : Task) (hasConnector : Bool) (actions : List Action) :
    ExecutionProgram (Option RemoteObject × Except Fault Bool) := do
  if !hasConnector then return (none, .error (.connectorNotFound t.resource.key))
  match ← t.read .before t.accountIdBefore with
  | .error fault => return (none, .error fault)
  | .ok object =>
    match ← t.runBefore object 0 actions with
    | .error fault => return (object, .error fault)
    | .ok () =>
      match ← t.decide object with
      | .error fault => return (object, .error fault)
      | .ok decision => return (object, ← t.carryOut decision)

/-- Whether an execution is kept, by the trace level of the operation. -/
def mustRegister (t : Task) (status : ExecutionStatus) : Bool :=
  let trace := t.resource.trace t.operation
  trace == .all || (status.isFailure && trace.keepsFailures)

/-- Hands an execution to the store, step by step as long as nothing fails. -/
def register (t : Task) (execution : Execution) : ExecutionProgram Execution := do
  match ← (Request.save t).ask with
  | .error _ => return execution
  | .ok () =>
    match ← (Request.append t execution).ask with
    | .error _ => return execution
    | .ok id =>
      match ← Request.flush.ask with
      | .error _ => return execution
      | .ok () => return execution.withId id

/-- Reads the object again after the change; what fails counts as nothing. -/
def readAfter (t : Task) (settings : Settings) (hasConnector : Bool) :
    ExecutionProgram (Option RemoteObject) := do
  if hasConnector && settings.fetchAfter then
    match ← t.read .after t.accountId with
    | .ok object => return object
    | .error _ => return none
  else return none

/-- Tells the sinks and the actions of an execution that is over. -/
def tell (t : Task) (actions : List Action) (execution : Execution)
    (before after : Option RemoteObject) : ExecutionProgram Unit := do
  let id ← Request.newEventId.ask
  let event := Event.ofExecution id (← Request.now.ask) t execution before after
  let _ ← (Request.audit event).ask
  let _ ← (Request.notify event).ask
  t.runAfter execution after 0 actions

/-- Ends an execution: it is finished, registered if that is called for, and told to all. -/
def conclude (t : Task) (settings : Settings) (hasConnector : Bool) (actions : List Action)
    (execution : Execution) (before : Option RemoteObject) (fault : Option Fault)
    (attempted : Bool) : ExecutionProgram Execution := do
  let status := ExecutionStatus.outcome t.mode fault.isNone
  let execution := execution.finished status fault settings.maxReasonLength (← Request.now.ask)
  let after ← t.readAfter settings hasConnector
  let execution ←
    if attempted && t.mustRegister status then t.register execution else pure execution
  t.tell actions execution before after
  return execution

/-- Executes a task once. -/
def execute (t : Task) (settings : Settings) : ExecutionProgram (Except Fault Execution) := do
  let execution := Execution.started t.id (← Request.now.ask)
  let actions ← (Request.actions t.resource).ask
  let hasConnector ← (Request.connector t.resource).ask
  let (before, result) ← t.propagate hasConnector actions
  match result with
  | .error (.validation names) => return .error (.validation names)
  | .error fault =>
    return .ok (← t.conclude settings hasConnector actions execution before (some fault) true)
  | .ok attempted =>
    return .ok (← t.conclude settings hasConnector actions execution before none attempted)

/-- Adds to a report what became of an execution. -/
def recordIn (t : Task) (report : Report) : Except Fault Execution → Report
  | .ok execution => report.addExecution t execution
  | .error fault => report.addRejection t fault

/-- Whether an execution failed or was refused. -/
def hasFailed : Except Fault Execution → Bool
  | .ok execution => execution.status.isFailure
  | .error _ => true

/-- Executes tasks in order. After the failure of a resource with priority the remaining ones are
not attempted. -/
def executeAll (settings : Settings) (report : Report) : List Task → ExecutionProgram Report
  | [] => return report
  | t :: rest => do
    let result ← t.execute settings
    let report := t.recordIn report result
    if hasFailed result && t.resource.priority then
      return rest.foldl (fun r skipped => r.addNotAttempted skipped t.resource.key) report
    else executeAll settings report rest

end Task

end Provisioning
