import Provisioning.Execution.Basic
import Provisioning.Task.Basic

/-!
# Reports on batches

A report lists what became of each task of a batch: it was executed, it was rejected before anything
was done, or it was not attempted after the failure of a resource with priority.
-/

namespace Provisioning

inductive ReportedOutcome where
  | executed (status : ExecutionStatus)
  | rejected
  | notAttempted
  deriving DecidableEq, Repr

instance : ToJson ReportedOutcome where
  toJson
    | .executed status => .obj (field "outcome" "executed" ++ field "status" status)
    | .rejected => .obj (field "outcome" "rejected")
    | .notAttempted => .obj (field "outcome" "not_attempted")

namespace ReportedOutcome

/-- Whether nothing but a tag is in a value. In an object there may be fields that nobody knows. -/
def isBare (content : Json) : Bool :=
  match content with
  | .obj _ => true
  | .arr items => items.isEmpty
  | _ => false

def ofTagged? (t : Tagged) : Option ReportedOutcome := do
  match t.tag with
  | "executed" =>
    let r ← Record.ofJson? .late ["status"] t.content
    return .executed (← r.required "status")
  | "rejected" => if isBare t.content then some .rejected else none
  | "not_attempted" => if isBare t.content then some .notAttempted else none
  | _ => none

instance : FromJson ReportedOutcome := ⟨fun _ j => do ofTagged? (← Tagged.ofJson? "outcome" j)⟩

end ReportedOutcome

/-- What became of one task. -/
structure TaskStatus where
  taskId : TaskId
  resource : String
  outcome : ReportedOutcome
  message : Option String
  deriving DecidableEq, Repr

instance : ToJson TaskStatus where
  toJson s := .obj (field "task_id" s.taskId ++ field "resource" s.resource ++
    field "outcome" s.outcome ++ field "message" s.message)

instance : FromJson TaskStatus where
  read? reading j := do
    let r ← Record.ofJson? reading ["task_id", "resource", "outcome", "message"] j
    return {
      taskId := ← r.required "task_id"
      resource := ← r.required "resource"
      outcome := ← r.required "outcome"
      message := ← r.optional "message" }

/-- Whether a task failed or was refused. -/
def TaskStatus.isFailure (s : TaskStatus) : Bool :=
  match s.outcome with
  | .executed status => status.isFailure
  | .rejected => true
  | .notAttempted => false

structure Report where
  statuses : List TaskStatus
  deriving DecidableEq, Repr

namespace Report

def empty : Report := ⟨[]⟩

def add (r : Report) (task : Task) (outcome : ReportedOutcome) (message : Option String) : Report :=
  ⟨r.statuses ++ [⟨task.id, task.resource.key, outcome, message⟩]⟩

def addExecution (r : Report) (task : Task) (execution : Execution) : Report :=
  r.add task (.executed execution.status) execution.message

def addRejection (r : Report) (task : Task) (fault : Fault) : Report :=
  r.add task .rejected (some fault.shortReason)

def addNotAttempted (r : Report) (task : Task) (failedResource : String) : Report :=
  r.add task .notAttempted
    (some ("Not attempted because of failure on priority resource " ++ failedResource))

/-- The first status of a resource. -/
def statusOf? (r : Report) (resource : String) : Option TaskStatus :=
  r.statuses.find? fun s => s.resource == resource

def hasFailures (r : Report) : Bool :=
  r.statuses.any TaskStatus.isFailure

end Report

end Provisioning
