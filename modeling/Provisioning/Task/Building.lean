import Provisioning.Resolution.Dates
import Provisioning.Task.Basic
import Provisioning.Virtual.Refresh

/-!
# Building tasks

A task is built for a subject and a resource: the virtual attributes are refreshed, the mapping is
resolved, and the result goes into the task. A former account id that is the same as the new one
counts for nothing.
-/

namespace Provisioning

/-- What is to be propagated. -/
structure TaskRequest where
  operation : Operation
  /-- The new password in the clear. -/
  password : Option String
  changes : VirtualChanges
  /-- The account id before a rename. -/
  oldAccountId : Option String

namespace Task

/-- The task of a resolved subject. -/
def ofResolution (id : TaskId) (subject : Subject) (resource : Resource) (request : TaskRequest)
    (r : Resolution) : Task :=
  { plain id request.operation subject.kind subject.key resource with
    attributes := r.attributes
    accountId := r.accountId
    oldAccountId := request.oldAccountId.filter fun old => r.accountId != some old }

/-- The task of a subject whose virtual attributes are fresh. -/
def ofSubject (resolver : Resolver) (id : TaskId) (draws : Draws) (subject : Subject)
    (resource : Resource) (request : TaskRequest) : Except Fault Task := do
  let r ← resolver.resolve
    ⟨subject, resource, request.operation, request.password, request.changes⟩ draws
  return ofResolution id subject resource request r

/-- Builds a task. -/
def build (resolver : Resolver) (hasSource : Bool) (id : TaskId) (draws : Draws)
    (subject : Subject) (resource : Resource) (request : TaskRequest) :
    VirtualProgram (Except Fault Task) := do
  let (fresh, result) ← refresh hasSource subject resource
  match result with
  | .error fault => return .error fault
  | .ok () => return ofSubject resolver id draws fresh resource request

/-- Whether every date that the building of a task meets can be shown. -/
def canBuild (resolver : Resolver) (hasSource : Bool) (draws : Draws) (subject : Subject)
    (resource : Resource) (request : TaskRequest) : VirtualProgram Bool := do
  let (fresh, result) ← refresh hasSource subject resource
  match result with
  | .error _ => return true
  | .ok () =>
    return resolver.canResolve
      ⟨fresh, resource, request.operation, request.password, request.changes⟩ draws

end Task

end Provisioning
