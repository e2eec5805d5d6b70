import Provisioning.Connector.Error
import Provisioning.Event
import Provisioning.Execution.Action
import Provisioning.Program

/-!
# What an execution asks for

An execution asks the clock, the connector of the resource, the directory, the store, the sinks of
events and the actions of the resource. All calls to the target system go to the connector of the
task's resource, with the task's mode and object class.
-/

namespace Provisioning

open Calendar

/-- Whether an object is read before or after the change. -/
inductive Stage where
  | before
  | after
  deriving DecidableEq, Repr

inductive Request where
  | now
  | newEventId
  | actions (resource : Resource)
  /-- Whether the resource has a connector. -/
  | connector (resource : Resource)
  | read (stage : Stage) (task : Task) (uid : Uid) (names : List String)
  | create (task : Task) (attributes : AttributeSet)
  | update (task : Task) (uid : Uid) (attributes : AttributeSet)
  | delete (task : Task) (uid : Uid)
  | resourceNames (kind : SubjectKind) (key : SubjectKey)
  | save (task : Task)
  | append (task : Task) (execution : Execution)
  | flush
  | audit (event : Event)
  | notify (event : Event)
  /-- Calls the action at a place of the chain. -/
  | actBefore (place : Nat) (action : Action) (task : Task) (object : Option RemoteObject)
  | actAfter (place : Nat) (action : Action) (task : Task) (execution : Execution)
    (object : Option RemoteObject)

/-- The answers that fit the requests. -/
abbrev Request.Answer : Request → Type
  | .now => Instant
  | .newEventId => Identifier
  | .actions _ => List Action
  | .connector _ => Bool
  | .read _ _ _ _ => Except ConnectorError (Option RemoteObject)
  | .create _ _ => Except ConnectorError Uid
  | .update _ _ _ => Except ConnectorError Uid
  | .delete _ _ => Except ConnectorError Unit
  | .resourceNames _ _ => Except StoreError (List String)
  | .save _ => Except StoreError Unit
  | .append _ _ => Except StoreError ExecutionId
  | .flush => Except StoreError Unit
  | .audit _ => Except EventError Unit
  | .notify _ => Except EventError Unit
  | .actBefore _ _ _ _ => Except ActionError Unit
  | .actAfter _ _ _ _ _ => Except ActionError Unit

abbrev ExecutionProgram := Program Request Request.Answer

def Request.ask (r : Request) : ExecutionProgram r.Answer :=
  .request r

end Provisioning
