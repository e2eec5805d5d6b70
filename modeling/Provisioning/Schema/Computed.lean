import Provisioning.Json.Record

/-!
# Derived and virtual attributes

A derived attribute is computed from an expression over the other attributes of its holder. A
virtual attribute shows what another system keeps; its values are unknown until that system was
asked.
-/

namespace Provisioning

structure DerivedSchema where
  name : String
  expression : String
  deriving DecidableEq, Repr

structure DerivedAttribute where
  schema : DerivedSchema
  deriving DecidableEq, Repr

structure VirtualSchema where
  name : String
  multivalue : Bool
  readOnly : Bool
  deriving DecidableEq, Repr

structure VirtualAttribute where
  schema : VirtualSchema
  /-- The values, once they are known. -/
  values : Option (List String)
  deriving DecidableEq, Repr

instance : ToJson DerivedSchema where
  toJson s := .obj (field "name" s.name ++ field "expression" s.expression)

instance : FromJson DerivedSchema where
  read? reading j := do
    let r ← Record.ofJson? reading ["name", "expression"] j
    return { name := ← r.required "name", expression := ← r.required "expression" }

instance : ToJson DerivedAttribute where
  toJson a := .obj (field "schema" a.schema)

instance : FromJson DerivedAttribute where
  read? reading j := do
    let r ← Record.ofJson? reading ["schema"] j
    return { schema := ← r.required "schema" }

instance : ToJson VirtualSchema where
  toJson s := .obj (field "name" s.name ++ field "multivalue" s.multivalue ++
    field "read_only" s.readOnly)

instance : FromJson VirtualSchema where
  read? reading j := do
    let r ← Record.ofJson? reading ["name", "multivalue", "read_only"] j
    return {
      name := ← r.required "name"
      multivalue := ← r.withDefault "multivalue" false
      readOnly := ← r.withDefault "read_only" false }

instance : ToJson VirtualAttribute where
  toJson a := .obj (field "schema" a.schema ++ field "values" a.values)

instance : FromJson VirtualAttribute where
  read? reading j := do
    let r ← Record.ofJson? reading ["schema", "values"] j
    return { schema := ← r.required "schema", values := ← r.withDefault "values" none }

end Provisioning
