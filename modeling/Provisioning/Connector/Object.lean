import Provisioning.Attribute.Set

/-!
# Objects of a target system

An object is known to its system by an identifier, the value of one of its attributes, and has a
name to be shown by. Three attribute names are reserved: for the name, for the identifier and for
a password in the clear.
-/

namespace Provisioning

/-- The attribute that stands for an object's name. -/
def nameAttribute : String := "__NAME__"

/-- The attribute that stands for an object's identifier. -/
def uidAttribute : String := "__UID__"

/-- The attribute that carries a password in the clear. -/
def passwordAttribute : String := "__PASSWORD__"

structure Uid where
  attributeName : String
  value : String
  deriving DecidableEq, Repr

namespace Uid

/-- An identifier under the usual attribute. -/
def ofValue (value : String) : Uid :=
  ⟨"uid", value⟩

def text (uid : Uid) : String :=
  uid.attributeName ++ "=" ++ uid.value

instance : ToJson Uid where
  toJson uid := .obj (field "attribute_name" uid.attributeName ++ field "value" uid.value)

instance : FromJson Uid where
  read? reading j := do
    let r ← Record.ofJson? reading ["attribute_name", "value"] j
    return { attributeName := ← r.required "attribute_name", value := ← r.required "value" }

end Uid

/-- An object as it was read. -/
structure RemoteObject where
  objectClass : String
  uid : Uid
  name : String
  attributes : AttributeSet

namespace RemoteObject

/-- The attributes with the name and the identifier among them. -/
def fullAttributes (o : RemoteObject) : AttributeSet :=
  (o.attributes.set nameAttribute (.string o.name)).set uidAttribute (.string o.uid.value)

instance : ToJson RemoteObject where
  toJson o := .obj (field "object_class" o.objectClass ++ field "uid" o.uid ++
    field "name" o.name ++ field "attributes" o.attributes)

instance : FromJson RemoteObject where
  read? reading j := do
    let r ← Record.ofJson? reading ["object_class", "uid", "name", "attributes"] j
    return {
      objectClass := ← r.required "object_class"
      uid := ← r.required "uid"
      name := ← r.required "name"
      attributes := ← r.required "attributes" }

end RemoteObject

/-- What goes with every call to a target system. -/
structure CallOptions where
  /-- The attributes that a read should return; all of them when nothing is said. -/
  attributesToGet : Option (List String)
  deriving DecidableEq, Repr

namespace CallOptions

instance : ToJson CallOptions where
  toJson o := .obj (fieldIfAny "attributes_to_get" o.attributesToGet)

instance : FromJson CallOptions where
  read? reading j := do
    let r ← Record.ofJson? reading ["attributes_to_get"] j
    return { attributesToGet := ← r.withDefault "attributes_to_get" none }

end CallOptions

end Provisioning
