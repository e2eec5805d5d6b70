import Provisioning.Execution.Run
import Provisioning.Simulation.World

/-!
# Sessions

In a session tasks go by names, and the last execution under each name is remembered, so that its
outcome can be reported. It stays when another task takes the name.
-/

namespace Provisioning.Simulation

open Calendar

structure Session where
  world : World
  settings : Settings
  tasks : List (String × Task)
  /-- The last execution under each name, or the last report that it accepted. -/
  executions : List (String × Execution)

namespace Session

def start (world : World) (settings : Settings) : Session :=
  ⟨world, settings, [], []⟩

def task? (s : Session) (name : String) : Option Task :=
  s.tasks.lookup name

def last? (s : Session) (name : String) : Option Execution :=
  s.executions.lookup name

/-- Gives a task a name. -/
def enter (s : Session) (name : String) (task : Task) : Session :=
  { s with tasks := Keyed.put name task s.tasks }

/-- Remembers an execution as the last one, if there is one. -/
def remember (s : Session) (name : String) : Except Fault Execution → Session
  | .ok execution => { s with executions := Keyed.put name execution s.executions }
  | .error _ => s

def execute (s : Session) (name : String) (task : Task) : Except Fault Execution × Session :=
  let (result, world) := s.world.perform (task.execute s.settings)
  (result, { s with world := world }.remember name result)

def executeAll (s : Session) (tasks : List Task) : Report × Session :=
  let (report, world) := s.world.perform (Task.executeAll s.settings .empty tasks)
  (report, { s with world := world })

/-- Reports the outcome of an execution. -/
def report (s : Session) (name : String) (execution : Execution) (outcome : ExecutionStatus)
    (message : Option String) : Except Fault Execution × Session :=
  let (now, world) := s.world.now
  let result := execution.report outcome message now
  (result, { s with world := world }.remember name result)

/-- Whether the store has an execution with the identifier of the last one. -/
def lastIsStored? (s : Session) (name : String) (task : Task) : Option Bool :=
  (s.last? name).map fun last =>
    (s.world.store.executionsOf task.id).any fun e => e.id == last.id

end Session

end Provisioning.Simulation
