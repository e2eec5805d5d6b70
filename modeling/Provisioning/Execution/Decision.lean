import Provisioning.Task.Basic

/-!
# What has to be changed

Creating and updating are one: the object is to have the attributes of the task, whatever it has
now. An absent object is created, unless mandatory attributes of a new object have no value. Of a
present object only what differs is sent, and nothing if nothing does. Its name is not sent when it
has that name already and is identified by something else.
-/

namespace Provisioning

/-- The one call that a task comes down to. -/
inductive Decision where
  | refuse (names : List String)
  | nothing
  | create (attributes : AttributeSet)
  | update (uid : Uid) (attributes : AttributeSet)
  | delete (uid : Uid)

namespace Task

/-- The attributes that can be compared with an object's. -/
def comparable (t : Task) (object : RemoteObject) : AttributeSet :=
  if t.wanted.getString? nameAttribute = some object.name ∧ object.uid.value ≠ object.name then
    t.wanted.erase nameAttribute
  else t.wanted

/-- The attributes in which an object is not as it should be. -/
def changes (t : Task) (object : RemoteObject) : AttributeSet :=
  let wanted := t.comparable object
  wanted.difference (object.fullAttributes.restrictedTo wanted)

/-- How the object that was read is made to have the attributes of the task. -/
def converge (t : Task) : Option RemoteObject → Decision
  | none =>
    if t.operation = .create ∧ t.withoutValue ≠ [] then .refuse t.withoutValue
    else .create t.wanted
  | some object =>
    if (t.changes object).isEmpty then .nothing else .update object.uid (t.changes object)

end Task

end Provisioning
