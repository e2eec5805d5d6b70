import Provisioning.Execution.Request
import Provisioning.Simulation.TargetSystem
import Provisioning.Store

/-!
# A simulated world

A world answers all that an execution asks for: with simulated target systems, a store, a directory,
sinks that count what they accept, and actions that do as they are told. Services can be scripted to
fail. The world writes down every request but those to the clock and for identifiers, and those to
actions that do nothing; and it writes down whether a failure came from a script.

Clock and identifiers go up by one each time.
-/

namespace Provisioning.Simulation

open Calendar

/-- What can be scripted to fail beside the target systems. -/
inductive Service where
  | save
  | append
  | flush
  | resourceNames
  | audit
  | notify
  deriving DecidableEq, Repr

instance : Worded Service where
  all := [.save, .append, .flush, .resourceNames, .audit, .notify]
  word
    | .save => "save_task"
    | .append => "append_execution"
    | .flush => "flush"
    | .resourceNames => "resource_names"
    | .audit => "audit"
    | .notify => "notify"

/-- An action with what becomes of its calls. -/
structure ScriptedAction where
  action : Action
  before : Option ActionError
  after : Option ActionError
  /-- Whether the action does nothing at all. -/
  idle : Bool

/-- A request, and the failure that a script had for it. -/
structure Entry where
  request : Request
  scripted : Option String
  /-- Whether what was asked for is there. -/
  found : Bool

structure World where
  systems : List (String × TargetSystem)
  scripts : List (Service × Script String)
  actions : List (String × List ScriptedAction)
  store : TaskStore
  directory : Directory
  audited : Nat
  notified : Nat
  /-- How often the clock was read or an identifier was given out. -/
  ticks : Nat
  log : List Entry

namespace World

def start (systems : List (String × TargetSystem)) (scripts : List (Service × Script String))
    (actions : List (String × List ScriptedAction)) : World :=
  ⟨systems, scripts, actions, .empty, .empty, 0, 0, 0, []⟩

def tick (w : World) : World :=
  { w with ticks := w.ticks + 1 }

/-- A new identifier. -/
def newId (w : World) : Identifier × World :=
  (⟨BitVec.ofNat 128 (w.ticks + 1)⟩, w.tick)

def now (w : World) : Instant × World :=
  (⟨w.ticks, 0⟩, w.tick)

def write (w : World) (request : Request) (scripted : Option String) (found : Bool) : World :=
  { w with log := w.log ++ [⟨request, scripted, found⟩] }

/-- The next scripted failure of a service. -/
def script (w : World) (service : Service) : Option String × World :=
  let (failure, rest) := Script.next ((w.scripts.lookup service).getD [])
  (failure, { w with scripts := Keyed.put service rest w.scripts })

def system (w : World) (task : Task) : TargetSystem :=
  (w.systems.lookup task.resource.connector).getD ⟨[], []⟩

def withSystem (w : World) (task : Task) (s : TargetSystem) : World :=
  { w with systems := Keyed.put task.resource.connector s w.systems }

/-- Calls a target system, unless a script lets the call fail. -/
def call {α : Type} (w : World) (request : Request) (task : Task) (call : Call)
    (effect : TargetSystem → Except ConnectorError α × TargetSystem) :
    Except ConnectorError α × World :=
  let (failure, system) := (w.system task).script call
  let w := w.write request (failure.map ConnectorError.code) true
  match failure with
  | some e => (.error e, w.withSystem task system)
  | none =>
    let (result, system) := effect system
    (result, w.withSystem task system)

/-- Asks a store, unless a script lets it fail. -/
def serve {α : Type} (w : World) (request : Request) (service : Service)
    (effect : World → Except StoreError α × World) : Except StoreError α × World :=
  let (failure, w) := w.script service
  let w := w.write request failure true
  match failure with
  | some message => (.error (.unavailable message), w)
  | none => effect w

/-- Hands an event to a sink, unless a script lets it fail. -/
def deliver (w : World) (request : Request) (service : Service) (effect : World → World) :
    Except EventError Unit × World :=
  let (failure, w) := w.script service
  let w := w.write request failure true
  match failure with
  | some message => (.error (.sinkUnavailable message), w)
  | none => (.ok (), effect w)

/-- The script of an action of a task's resource. -/
def scriptedAction? (w : World) (task : Task) (place : Nat) : Option ScriptedAction :=
  ((w.actions.lookup task.resource.key).getD [])[place]?

/-- Calls an action. -/
def act (w : World) (request : Request) (task : Task) (place : Nat)
    (failure : ScriptedAction → Option ActionError) : Except ActionError Unit × World :=
  match w.scriptedAction? task place with
  | none => (.ok (), w)
  | some a =>
    if a.idle then (.ok (), w)
    else
      let w := w.write request none true
      match failure a with
      | some e => (.error e, w)
      | none => (.ok (), w)

def save (w : World) (task : Task) : World :=
  { w with store := w.store.save task }

def flush (w : World) : World :=
  { w with store := w.store.flush }

def append (w : World) (task : Task) (execution : Execution) :
    Except StoreError ExecutionId × World :=
  let (id, w) := w.newId
  match w.store.append task execution id with
  | .ok store => (.ok id, { w with store := store })
  | .error e => (.error e, w)

def answer : (r : Request) → World → r.Answer × World
  | .now, w => w.now
  | .newEventId, w => w.newId
  | .actions resource, w =>
    (((w.actions.lookup resource.key).getD []).map ScriptedAction.action, w)
  | .connector resource, w =>
    let found := (w.systems.lookup resource.connector).isSome
    (found, w.write (.connector resource) none found)
  | .read stage task uid names, w =>
    w.call (.read stage task uid names) task .get fun s => (.ok (s.get uid), s)
  | .create task attributes, w =>
    w.call (.create task attributes) task .create fun s =>
      let (uid, s) := s.create task.objectClass attributes
      (.ok uid, s)
  | .update task uid attributes, w =>
    w.call (.update task uid attributes) task .update fun s => s.update uid attributes
  | .delete task uid, w =>
    w.call (.delete task uid) task .delete fun s => (.ok (), s.delete uid)
  | .resourceNames kind key, w =>
    w.serve (.resourceNames kind key) .resourceNames fun w =>
      (w.directory.resourceNames kind key, w)
  | .save task, w =>
    w.serve (.save task) .save fun w => (.ok (), w.save task)
  | .append task execution, w =>
    w.serve (.append task execution) .append fun w => w.append task execution
  | .flush, w => w.serve .flush .flush fun w => (.ok (), w.flush)
  | .audit event, w =>
    w.deliver (.audit event) .audit fun w => { w with audited := w.audited + 1 }
  | .notify event, w =>
    w.deliver (.notify event) .notify fun w => { w with notified := w.notified + 1 }
  | .actBefore place action task object, w =>
    w.act (.actBefore place action task object) task place ScriptedAction.before
  | .actAfter place action task execution object, w =>
    w.act (.actAfter place action task execution object) task place ScriptedAction.after

/-- Puts an object into a target system. -/
def seed (w : World) (connector : String) (s : TargetSystem) (key : String)
    (object : RemoteObject) : World :=
  { w with systems := Keyed.put connector (s.seed key object) w.systems }

/-- Assigns resources to a subject. -/
def assign (w : World) (kind : SubjectKind) (key : SubjectKey) (resources : List String) : World :=
  { w with directory := w.directory.assign kind key resources }

/-- Runs a program with an empty log. -/
def perform {α : Type} (w : World) (p : ExecutionProgram α) : α × World :=
  p.run answer { w with log := [] }

end World

end Provisioning.Simulation
