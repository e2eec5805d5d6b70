import Provisioning.Schema.Datum

/-!
# Plain attributes

A plain attribute has values of its own. Its schema says how many there may be, of which type, and
which choices an enumeration has; building an attribute checks its values against the schema.
-/

namespace Provisioning

structure PlainSchema where
  name : String
  type : SchemaType
  multivalue : Bool
  readOnly : Bool
  /-- How dates are shown. -/
  conversionPattern : Option String
  /-- The choices of an enumeration; none means any. -/
  enumValues : List String
  deriving DecidableEq, Repr

/-- Why values do not fit a schema. -/
inductive SchemaError where
  | typeMismatch (schema : String) (expected actual : SchemaType)
  | tooManyValues (schema : String) (count : Nat)
  | enumValueNotAllowed (schema value : String)
  deriving DecidableEq, Repr

def SchemaError.message : SchemaError → String
  | .typeMismatch schema expected actual =>
    "Value of type " ++ word actual ++ " not allowed for schema '" ++ schema ++ "' of type " ++
      word expected
  | .tooManyValues schema count =>
    "Schema '" ++ schema ++ "' is single-valued, got " ++ toString count ++ " values"
  | .enumValueNotAllowed schema value =>
    "Value '" ++ value ++ "' not allowed for enum schema '" ++ schema ++ "'"

/-- A fixed word for each kind of error. -/
def SchemaError.code : SchemaError → String
  | .typeMismatch _ _ _ => "type_mismatch"
  | .tooManyValues _ _ => "too_many_values"
  | .enumValueNotAllowed _ _ => "enum_value_not_allowed"

namespace PlainSchema

/-- A schema for one writable value. -/
def single (name : String) (type : SchemaType) : PlainSchema :=
  ⟨name, type, false, false, none, []⟩

/-- Whether a choice is allowed. -/
def allows (s : PlainSchema) (choice : String) : Bool :=
  s.enumValues.isEmpty || s.enumValues.contains choice

/-- Checks a single value. -/
def validateValue (s : PlainSchema) (d : Datum) : Except SchemaError Unit :=
  if d.type ≠ s.type then .error (.typeMismatch s.name s.type d.type)
  else match d with
    | .enum choice =>
      if s.allows choice then .ok () else .error (.enumValueNotAllowed s.name choice)
    | _ => .ok ()

/-- Checks values: their number first, then one after the other. -/
def validate (s : PlainSchema) (values : List Datum) : Except SchemaError Unit :=
  if !s.multivalue && decide (1 < values.length) then
    .error (.tooManyValues s.name values.length)
  else values.forM s.validateValue

instance : ToJson PlainSchema where
  toJson s := .obj (field "name" s.name ++ field "schema_type" s.type ++
    field "multivalue" s.multivalue ++ field "read_only" s.readOnly ++
    fieldIfAny "conversion_pattern" s.conversionPattern ++ field "enum_values" s.enumValues)

instance : FromJson PlainSchema where
  read? reading j := do
    let r ← Record.ofJson? reading
      ["name", "schema_type", "multivalue", "read_only", "conversion_pattern", "enum_values"] j
    return {
      name := ← r.required "name"
      type := ← r.required "schema_type"
      multivalue := ← r.withDefault "multivalue" false
      readOnly := ← r.withDefault "read_only" false
      conversionPattern := ← r.withDefault "conversion_pattern" none
      enumValues := ← r.withDefault "enum_values" [] }

end PlainSchema

structure PlainAttribute where
  schema : PlainSchema
  values : List Datum
  deriving DecidableEq, Repr

namespace PlainAttribute

/-- An attribute of values that fit the schema. -/
def create (schema : PlainSchema) (values : List Datum) : Except SchemaError PlainAttribute := do
  schema.validate values
  return ⟨schema, values⟩

/-- An attribute of one text. -/
def string (name value : String) : PlainAttribute :=
  ⟨.single name .string, [.string value]⟩

/-- The values as text. -/
def texts (a : PlainAttribute) : List String :=
  a.values.map fun v => v.text a.schema.conversionPattern

/-- The values as a target system keeps them. -/
def attributeValues (a : PlainAttribute) : List AttributeValue :=
  a.values.map fun v => v.toAttribute a.schema.conversionPattern

/-- Whether every value can be shown. -/
def isPrintable (a : PlainAttribute) : Bool :=
  a.values.all fun v => v.isPrintable a.schema.conversionPattern

instance : ToJson PlainAttribute where
  toJson a := .obj (field "schema" a.schema ++ field "values" a.values)

instance : FromJson PlainAttribute where
  read? reading j := do
    let r ← Record.ofJson? reading ["schema", "values"] j
    return { schema := ← r.required "schema", values := ← r.required "values" }

end PlainAttribute

end Provisioning
