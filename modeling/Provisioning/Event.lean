import Provisioning.Execution.Basic
import Provisioning.Task.Basic

/-!
# Events

Every execution that comes to an end gives one event, for the audit and for whoever wants to be
notified. It tells what the object looked like before and after.
-/

namespace Provisioning

open Calendar

inductive EventCategory where
  | propagation
  deriving DecidableEq, Repr

instance : Worded EventCategory where
  all := [.propagation]
  word
    | .propagation => "propagation"

inductive EventOutcome where
  | success
  | failure
  deriving DecidableEq, Repr

instance : Worded EventOutcome where
  all := [.success, .failure]
  word
    | .success => "success"
    | .failure => "failure"

/-- Why an event did not get through. -/
inductive EventError where
  | serializationFailed (eventType cause : String)
  | sinkUnavailable (message : String)
  deriving DecidableEq, Repr

def EventError.message : EventError → String
  | .serializationFailed eventType cause => "Failed to serialize " ++ eventType ++ ": " ++ cause
  | .sinkUnavailable m => "Event sink unavailable: " ++ m

structure Event where
  id : Identifier
  category : EventCategory
  subjectKind : SubjectKind
  resource : String
  operation : Operation
  result : EventOutcome
  before : Option RemoteObject
  after : Option RemoteObject
  execution : Execution
  timestamp : Instant

namespace Event

/-- The event of an execution of a task. -/
def ofExecution (id : Identifier) (now : Instant) (task : Task) (execution : Execution)
    (before after : Option RemoteObject) : Event where
  id := id
  category := .propagation
  subjectKind := task.subjectKind
  resource := task.resource.key
  operation := task.operation
  result := if execution.status.isFailure then .failure else .success
  before := before
  after := after
  execution := execution
  timestamp := now

/-- The name of the type of the event. -/
def type (e : Event) : String :=
  "xavyo.propagation." ++ word e.subjectKind ++ "." ++ word e.operation

instance : ToJson Event where
  toJson e := .obj (field "event_id" e.id ++ field "category" e.category ++
    field "subject_type" e.subjectKind ++ field "resource" e.resource ++
    field "operation" e.operation ++ field "result" e.result ++ field "before" e.before ++
    field "after" e.after ++ field "execution" e.execution ++ field "timestamp" e.timestamp)

instance : FromJson Event where
  read? reading j := do
    let r ← Record.ofJson? reading ["event_id", "category", "subject_type", "resource", "operation",
      "result", "before", "after", "execution", "timestamp"] j
    return {
      id := ← r.required "event_id"
      category := ← r.required "category"
      subjectKind := ← r.required "subject_type"
      resource := ← r.required "resource"
      operation := ← r.required "operation"
      result := ← r.required "result"
      before := ← r.optional "before"
      after := ← r.optional "after"
      execution := ← r.required "execution"
      timestamp := ← r.required "timestamp" }

end Event

end Provisioning
