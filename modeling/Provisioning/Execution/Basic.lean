import Provisioning.Fault
import Provisioning.Schema.Datum

/-!
# Executions

An execution is one run of a task. It starts as created, is finished once, and gets an identifier
when a store takes it in. Reporting the later outcome of a two-phase execution makes a new
execution, already finished, and leaves the reported one as it is.
-/

namespace Provisioning

open Calendar

structure Execution where
  id : Option ExecutionId
  taskId : TaskId
  status : ExecutionStatus
  start : Instant
  finish : Option Instant
  /-- The short reason of a failure. -/
  message : Option String
  /-- All that is known about a failure. -/
  diagnostic : Option String
  failureKind : Option FailureKind
  deriving DecidableEq

namespace Execution

def started (taskId : TaskId) (now : Instant) : Execution :=
  ⟨none, taskId, .created, now, none, none, none, none⟩

/-- The first characters of a text. -/
def truncated (length : Nat) (s : String) : String :=
  String.ofList (s.toList.take length)

/-- Ends an execution, with the fault that made it fail. -/
def finished (e : Execution) (status : ExecutionStatus) (fault : Option Fault)
    (maxReasonLength : Nat) (now : Instant) : Execution :=
  let e := { e with status := status, finish := some now }
  match fault with
  | none => e
  | some f =>
    { e with
      message := some (truncated maxReasonLength f.shortReason)
      diagnostic := some f.diagnostic
      failureKind := some f.kind }

def withId (e : Execution) (id : ExecutionId) : Execution :=
  { e with id := some id }

/-- The execution that the report of an outcome makes. -/
def report (e : Execution) (outcome : ExecutionStatus) (message : Option String)
    (now : Instant) : Except Fault Execution :=
  if e.status.isReportable && e.status.canBecome outcome then
    .ok ⟨none, e.taskId, outcome, now, some now, message, none, none⟩
  else .error (.invalidTransition e.status outcome)

instance : ToJson Execution where
  toJson e := .obj (field "id" e.id ++ field "task_id" e.taskId ++ field "status" e.status ++
    field "start" e.start ++ field "end" e.finish ++ field "message" e.message ++
    field "diagnostic" e.diagnostic ++ field "failure_kind" e.failureKind)

instance : FromJson Execution where
  read? reading j := do
    let r ← Record.ofJson? reading
      ["id", "task_id", "status", "start", "end", "message", "diagnostic", "failure_kind"] j
    return {
      id := ← r.optional "id"
      taskId := ← r.required "task_id"
      status := ← r.required "status"
      start := ← r.required "start"
      finish := ← r.optional "end"
      message := ← r.optional "message"
      diagnostic := ← r.optional "diagnostic"
      failureKind := ← r.optional "failure_kind" }

end Execution

end Provisioning
