import Provisioning.Resource

/-!
# Propagation tasks

A task asks for one operation on one subject's object on one resource, with the attributes that the
object should have. It is built once and not changed. While an object is being renamed the task
also knows its former account id.

Two marker attributes are not meant for the resource. They list the mandatory attributes that the
subject does not have, and those it has without a value.
-/

namespace Provisioning

/-- Lists the mandatory attributes that are missing. -/
def missingMarker : String := "__MANDATORY_MISSING__"

/-- Lists the mandatory attributes that are there without a value. -/
def emptyMarker : String := "__MANDATORY_NULL_OR_EMPTY__"

structure Task where
  id : TaskId
  operation : Operation
  subjectKind : SubjectKind
  subjectKey : SubjectKey
  resource : Resource
  objectClass : String
  attributes : AttributeSet
  accountId : Option String
  /-- The account id before a rename. -/
  oldAccountId : Option String
  mode : Mode

namespace Task

/-- A task as the resource has it by default, without attributes. -/
def plain (id : TaskId) (operation : Operation) (kind : SubjectKind) (key : SubjectKey)
    (resource : Resource) : Task where
  id := id
  operation := operation
  subjectKind := kind
  subjectKey := key
  resource := resource
  objectClass := ((resource.mapping? kind).map Mapping.objectClass).getD ""
  attributes := .empty
  accountId := none
  oldAccountId := none
  mode := resource.mode

/-- The names in the two markers: the missing attributes, then the empty ones. -/
def withoutValue (t : Task) : List String :=
  (t.attributes.getStrings? missingMarker).getD [] ++
    (t.attributes.getStrings? emptyMarker).getD []

/-- The attributes that are meant for the resource. -/
def wanted (t : Task) : AttributeSet :=
  (t.attributes.erase missingMarker).erase emptyMarker

/-- The names that a read should return: those of the attributes, less the password's. -/
def namesToRead (t : Task) : List String :=
  t.attributes.names.filter fun name =>
    name != missingMarker && name != emptyMarker && name != passwordAttribute

/-- The identifier under which a resource knows an account id. -/
def uid (t : Task) (accountId : String) : Uid where
  attributeName :=
    match (t.resource.mapping? t.subjectKind).bind Mapping.accountIdItem? with
    | some item => item.externalName
    | none => uidAttribute
  value := accountId

instance : ToJson Task where
  toJson t := .obj (field "id" t.id ++ field "operation" t.operation ++
    field "subject_kind" t.subjectKind ++ field "subject_key" t.subjectKey ++
    field "resource" t.resource ++ field "object_class" t.objectClass ++
    field "attributes" t.attributes ++ field "account_id" t.accountId ++
    field "old_account_id" t.oldAccountId ++ field "mode" t.mode)

instance : FromJson Task where
  read? reading j := do
    let r ← Record.ofJson? reading ["id", "operation", "subject_kind", "subject_key", "resource",
      "object_class", "attributes", "account_id", "old_account_id", "mode"] j
    return {
      id := ← r.required "id"
      operation := ← r.required "operation"
      subjectKind := ← r.required "subject_kind"
      subjectKey := ← r.required "subject_key"
      resource := ← r.required "resource"
      objectClass := ← r.required "object_class"
      attributes := ← r.required "attributes"
      accountId := ← r.optional "account_id"
      oldAccountId := ← r.optional "old_account_id"
      mode := ← r.required "mode" }

end Task

end Provisioning
