import Provisioning.Connector.Error
import Provisioning.Connector.Object
import Provisioning.Keyed
import Provisioning.Worded

/-!
# Simulated target systems

A simulated system keeps its objects under keys, in the order of the keys. An object is found by its
key, or else as the first whose identifier has the value that is looked for. A new object goes by
its name; a new name renames an object, gives it a new key and changes its identifier. Names and
passwords are not among the attributes.

A script lets calls fail: each call takes the next entry of the script, and works when that entry is
empty or the script has come to its end.
-/

namespace Provisioning.Simulation

/-- What becomes of the calls to come. -/
abbrev Script (ε : Type) := List (Option ε)

/-- The entry for the next call, and the script after it. -/
def Script.next {ε : Type} : Script ε → Option ε × Script ε
  | [] => (none, [])
  | entry :: rest => (entry, rest)

/-- The calls that a target system knows. -/
inductive Call where
  | get
  | create
  | update
  | delete
  deriving DecidableEq, Repr

instance : Worded Call where
  all := [.get, .create, .update, .delete]
  word
    | .get => "get"
    | .create => "create"
    | .update => "update"
    | .delete => "delete"

structure TargetSystem where
  /-- Ascending by key. -/
  objects : List (String × RemoteObject)
  scripts : List (Call × Script ConnectorError)

namespace TargetSystem

/-- Puts an object in its place by key, instead of one with that key. -/
def insert (key : String) (object : RemoteObject) :
    List (String × RemoteObject) → List (String × RemoteObject)
  | [] => [(key, object)]
  | entry :: rest =>
    if key = entry.1 then (key, object) :: rest
    else if key < entry.1 then (key, object) :: entry :: rest
    else entry :: insert key object rest

def seed (s : TargetSystem) (key : String) (object : RemoteObject) : TargetSystem :=
  { s with objects := insert key object s.objects }

/-- The object with a key, or with an identifier of that value. -/
def find? (s : TargetSystem) (id : String) : Option (String × RemoteObject) :=
  match s.objects.find? fun entry => entry.1 == id with
  | some entry => some entry
  | none => s.objects.find? fun entry => entry.2.uid.value == id

/-- The attributes of a request that are kept as such. -/
def kept (attributes : AttributeSet) : AttributeSet :=
  (attributes.erase nameAttribute).erase passwordAttribute

/-- The next scripted failure of a call, if the call is to fail. -/
def script (s : TargetSystem) (call : Call) : Option ConnectorError × TargetSystem :=
  let (failure, rest) := Script.next ((s.scripts.lookup call).getD [])
  (failure, { s with scripts := Keyed.put call rest s.scripts })

def get (s : TargetSystem) (uid : Uid) : Option RemoteObject :=
  (s.find? uid.value).map Prod.snd

def create (s : TargetSystem) (objectClass : String) (attributes : AttributeSet) :
    Uid × TargetSystem :=
  let name := (attributes.getString? nameAttribute).getD ""
  let uid := Uid.ofValue name
  (uid, s.seed name ⟨objectClass, uid, name, kept attributes⟩)

/-- Gives an object a new name. -/
def renamed (object : RemoteObject) (name : String) : RemoteObject :=
  { object with name := name, uid := ⟨object.uid.attributeName, name⟩ }

def update (s : TargetSystem) (uid : Uid) (attributes : AttributeSet) :
    Except ConnectorError Uid × TargetSystem :=
  match s.find? uid.value with
  | none => (.error (.objectNotFound uid.text), s)
  | some (key, object) =>
    let changed := (kept attributes).entries.foldl (fun all e => all.set e.1 e.2) object.attributes
    let object := { object with attributes := changed }
    let others := { s with objects := Keyed.erase key s.objects }
    match attributes.getString? nameAttribute with
    | some name => (.ok ⟨object.uid.attributeName, name⟩, others.seed name (renamed object name))
    | none => (.ok object.uid, others.seed key object)

def delete (s : TargetSystem) (uid : Uid) : TargetSystem :=
  match s.find? uid.value with
  | none => s
  | some (key, _) => { s with objects := Keyed.erase key s.objects }

end TargetSystem

end Provisioning.Simulation
