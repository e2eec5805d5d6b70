import Provisioning.Execution.Basic
import Provisioning.Keyed
import Provisioning.Task.Basic

/-!
# Stores

A task store keeps tasks and their executions. An execution that is appended is pending until the
store is flushed; only then is it visible. A directory knows which resources are assigned to whom.
-/

namespace Provisioning

structure TaskStore where
  tasks : List (TaskId × Task)
  pending : List Execution
  /-- The visible executions of each task, in the order in which they were appended. -/
  executions : List (TaskId × List Execution)
  flushes : Nat

namespace TaskStore

def empty : TaskStore := ⟨[], [], [], 0⟩

def task? (s : TaskStore) (id : TaskId) : Option Task :=
  s.tasks.lookup id

def executionsOf (s : TaskStore) (id : TaskId) : List Execution :=
  (s.executions.lookup id).getD []

def save (s : TaskStore) (task : Task) : TaskStore :=
  { s with tasks := Keyed.put task.id task s.tasks }

/-- Takes in an execution of a saved task under a new identifier. -/
def append (s : TaskStore) (task : Task) (execution : Execution) (id : ExecutionId) :
    Except StoreError TaskStore :=
  match s.task? task.id with
  | none => .error (.taskNotFound task.id)
  | some _ => .ok { s with pending := s.pending ++ [execution.withId id] }

/-- Makes an execution visible. -/
def reveal (executions : List (TaskId × List Execution)) (e : Execution) :
    List (TaskId × List Execution) :=
  Keyed.put e.taskId ((executions.lookup e.taskId).getD [] ++ [e]) executions

def flush (s : TaskStore) : TaskStore :=
  { s with
    pending := []
    executions := s.pending.foldl reveal s.executions
    flushes := s.flushes + 1 }

end TaskStore

/-- The resources assigned to subjects. -/
structure Directory where
  assignments : List ((SubjectKind × SubjectKey) × List String)

namespace Directory

def empty : Directory := ⟨[]⟩

def assign (d : Directory) (kind : SubjectKind) (key : SubjectKey) (resources : List String) :
    Directory :=
  ⟨Keyed.put (kind, key) resources d.assignments⟩

def resourceNames (d : Directory) (kind : SubjectKind) (key : SubjectKey) :
    Except StoreError (List String) :=
  match d.assignments.lookup (kind, key) with
  | some resources => .ok resources
  | none => .error (.subjectNotFound kind key)

end Directory

end Provisioning
