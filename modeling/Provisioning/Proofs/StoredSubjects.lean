import Provisioning.Execution.Basic
import Provisioning.Proofs.Records
import Provisioning.Proofs.Stamps
import Provisioning.Subject.Related

/-!
# Subjects and executions that are read back

A typed value is read back when it has a form to be stored in: a double has to be finite, a date one
that a clock can show (`Datum.IsStorable`). With such values in it a subject is read back however it
is nested (`Subject.readsBack_of_isStorable`): its kind stands among its own fields and is taken out
again, and a part that is left out or null is read as what it is left out for. So is an execution
(`Execution.readsBack_of_isStorable`).
-/

namespace Provisioning

open Json Calendar

/-- Types whose values are written without an unreadable part. -/
class Readable (α : Type) [ToJson α] : Prop where
  isReadable_toJson : ∀ x : α, (toJson x).isReadable

section Readable

variable {α : Type}

instance : Readable String := ⟨fun _ => rfl⟩
instance : Readable Bool := ⟨fun _ => rfl⟩
instance : Readable UInt8 := ⟨fun _ => rfl⟩
instance : Readable UInt32 := ⟨fun _ => rfl⟩
instance : Readable Int64 := ⟨fun _ => rfl⟩
instance : Readable Identifier := ⟨fun _ => rfl⟩
instance : Readable Instant := ⟨fun _ => rfl⟩
instance [Worded α] : Readable α := ⟨fun _ => rfl⟩

instance : Readable Double where
  isReadable_toJson d := by
    show (if d.isFinite then Json.double d else .null).isReadable
    split_ifs <;> rfl

variable [ToJson α] [Readable α]

theorem allReadable_toJson : ∀ xs : List α, allReadable (xs.map toJson)
  | [] => rfl
  | x :: xs => by
    rw [List.map_cons, allReadable, Readable.isReadable_toJson x, allReadable_toJson xs]
    rfl

instance : Readable (List α) := ⟨fun xs => allReadable_toJson xs⟩

instance : Readable (Option α) where
  isReadable_toJson x := by
    rcases x with _ | x
    · rfl
    · exact Readable.isReadable_toJson x

@[simp]
theorem fieldsReadable_append {fields' : List (String × Json)} :
    ∀ {fields : List (String × Json)}, fieldsReadable (fields ++ fields') =
      (fieldsReadable fields && fieldsReadable fields')
  | [] => rfl
  | (name, j) :: fields => by
    rw [List.cons_append, fieldsReadable, fieldsReadable, fieldsReadable_append, Bool.and_assoc]

@[simp]
theorem fieldsReadable_field {name : String} {x : α} : fieldsReadable (field name x) := by
  rw [field, fieldsReadable, Readable.isReadable_toJson]
  rfl

@[simp]
theorem fieldsReadable_fieldIfAny {name : String} {value : Option α} :
    fieldsReadable (fieldIfAny name value) := by
  rcases value with _ | x
  · rfl
  · exact fieldsReadable_field

end Readable

/-! ## Typed values -/

instance : LawfulJson Int64 where
  read_toJson reading n := by
    have hlow := n.le_toInt
    have hhigh := n.toInt_lt
    show (intWithin? (-Nat.pow 2 63) (Nat.pow 2 63 - 1) (.int n.toInt)).map Int64.ofInt = some n
    rw [intWithin?, if_pos ⟨by simpa using hlow, by simp; omega⟩]
    simp
  ne_null _ h := by cases h

instance : LawfulJson SchemaType := lawful_of_word (by intro x; cases x <;> rfl)

instance : LawfulJson CipherAlgorithm := lawful_of_word (by intro x; cases x <;> rfl)

instance : LawfulJson ExecutionStatus := lawful_of_word (by intro x; cases x <;> rfl)

instance : LawfulJson FailureKind := lawful_of_word (by intro x; cases x <;> rfl)

theorem readsBack_instant {t : Instant} (h : t.OnClock) : ReadsBack t := fun _ => by
  show (some t.stamp >>= fun s => Instant.ofText? s) = some t
  rw [Option.bind_eq_bind, Option.bind_some, Instant.ofText?_stamp h]

theorem readsBack_double {d : Double} (h : d.isFinite) : ReadsBack d := fun _ => by
  show Json.double? (if d.isFinite then Json.double d else .null) = some d
  rw [if_pos h]
  rfl

namespace Datum

/-- Values that there is a form to store them in. -/
def IsStorable : Datum → Prop
  | .double d => d.isFinite
  | .date t => t.OnClock
  | _ => True

theorem ofContent?_contentToJson {d : Datum} (h : d.IsStorable) :
    ofContent? d.contentToJson d.type = some d := by
  rcases d with b | t | v | n | s | s | bytes
  · rfl
  · show (fromJson? (toJson t)).map Datum.date = _
    rw [fromJson?, readsBack_instant h]
    rfl
  · show (fromJson? (toJson v)).map Datum.double = _
    rw [fromJson?, readsBack_double h]
    rfl
  · show (fromJson? (toJson n)).map Datum.long = _
    rw [fromJson?, readsBack]
    rfl
  · rfl
  · rfl
  · show (fromJson? (toJson bytes)).map Datum.binary = _
    rw [fromJson?, readsBack]
    rfl

/-- A value is read by the type that stands with it. -/
theorem read?_toJson {d : Datum} {reading : Reading} :
    (read? reading (toJson d) : Option Datum) = ofContent? d.contentToJson d.type := by
  have hrecord : Record.ofJson? reading ["type", "value"] (toJson d) =
      some ⟨reading, field "type" d.type ++ [("value", d.contentToJson)], true⟩ :=
    Record.ofJson?_obj (by simp [Keyed.keys, field])
  have hword : (ofWord? (word d.type) : Option SchemaType) = some d.type := by
    cases d <;> rfl
  have hkind : (⟨reading, field "type" d.type ++ [("value", d.contentToJson)], true⟩ : Record).kind?
      "type" ((Worded.all : List SchemaType).map word) = some (word d.type) := rfl
  have hvalue : (⟨reading, field "type" d.type ++ [("value", d.contentToJson)], true⟩ :
      Record).part? "value" = some d.contentToJson := rfl
  simp only [read?, hrecord, hkind, hword, hvalue, Option.bind_eq_bind, Option.bind_some]

theorem readsBack_of_isStorable {d : Datum} (h : d.IsStorable) : ReadsBack d := fun _ => by
  rw [read?_toJson, ofContent?_contentToJson h]

theorem isReadable_contentToJson : ∀ d : Datum, d.contentToJson.isReadable
  | .boolean _ | .date _ | .long _ | .string _ | .enum _ => rfl
  | .double v => Readable.isReadable_toJson v
  | .binary bytes => Readable.isReadable_toJson bytes

instance : Readable Datum where
  isReadable_toJson d := by
    show fieldsReadable (field "type" d.type ++ [("value", d.contentToJson)]) = true
    rw [fieldsReadable_append, fieldsReadable_field, fieldsReadable, isReadable_contentToJson]
    rfl

end Datum

/-! ## Attributes -/

instance : LawfulJson PlainSchema where
  read_toJson reading s := by
    refine read_named (by simp [List.nodup_append]) ?_
    repeat apply bind_part
    · rfl
    all_goals simp [List.lookup_append]
  ne_null _ h := by cases h

instance : Readable PlainSchema := ⟨fun _ => by simp [toJson, isReadable]⟩

/-- Attributes whose values can all be stored. -/
def PlainAttribute.IsStorable (a : PlainAttribute) : Prop :=
  ∀ d ∈ a.values, d.IsStorable

theorem PlainAttribute.readsBack_of_isStorable {a : PlainAttribute} (h : a.IsStorable) :
    ReadsBack a := by
  have hvalues := readsBack_list fun d hd => Datum.readsBack_of_isStorable (h d hd)
  intro reading
  refine read_named (by simp) ?_
  repeat apply bind_part
  · rfl
  all_goals simp [List.lookup_append, hvalues reading]

instance : Readable PlainAttribute := ⟨fun _ => by simp [toJson, isReadable]⟩

instance : LawfulJson DerivedSchema where
  read_toJson reading s := by
    refine read_named (by simp) ?_
    repeat apply bind_part
    · rfl
    all_goals simp [List.lookup_append]
  ne_null _ h := by cases h

instance : Readable DerivedSchema := ⟨fun _ => by simp [toJson, isReadable]⟩

instance : LawfulJson DerivedAttribute where
  read_toJson reading a := by
    refine read_named (by simp) ?_
    apply bind_part
    · rfl
    · simp
  ne_null _ h := by cases h

instance : Readable DerivedAttribute := ⟨fun _ => by simp [toJson, isReadable]⟩

instance : LawfulJson VirtualSchema where
  read_toJson reading s := by
    refine read_named (by simp) ?_
    repeat apply bind_part
    · rfl
    all_goals simp [List.lookup_append]
  ne_null _ h := by cases h

instance : Readable VirtualSchema := ⟨fun _ => by simp [toJson, isReadable]⟩

instance : LawfulJson VirtualAttribute where
  read_toJson reading a := by
    refine read_named (by simp) ?_
    repeat apply bind_part
    · rfl
    all_goals simp [List.lookup_append]
  ne_null _ h := by cases h

instance : Readable VirtualAttribute := ⟨fun _ => by simp [toJson, isReadable]⟩

namespace Attributes

/-- Attributes of which the plain ones can all be stored. -/
def IsStorable (as : Attributes) : Prop :=
  ∀ a ∈ as.plain, a.IsStorable

theorem readsBack_of_isStorable {as : Attributes} (h : as.IsStorable) : ReadsBack as := by
  have hplain := readsBack_list fun a ha => PlainAttribute.readsBack_of_isStorable (h a ha)
  intro reading
  refine read_named (by simp) ?_
  repeat apply bind_part
  · rfl
  all_goals simp [List.lookup_append, hplain reading]

instance : Readable Attributes := ⟨fun _ => by simp [toJson, isReadable]⟩

end Attributes

/-! ## Subjects -/

instance : LawfulJson StoredPassword where
  read_toJson reading p := by
    refine read_named (by simp) ?_
    repeat apply bind_part
    · rfl
    all_goals simp [List.lookup_append]
  ne_null _ h := by cases h

instance : Readable StoredPassword := ⟨fun _ => by simp [toJson, isReadable]⟩

instance : LawfulJson RoleOwner where
  read_toJson reading owner := by
    rcases owner with name | name <;> exact read_named (by simp) rfl
  ne_null owner h := by cases owner <;> cases h

instance : Readable RoleOwner where
  isReadable_toJson owner := by cases owner <;> rfl

instance : Readable PasswordPolicy := ⟨fun _ => by simp [toJson, isReadable]⟩

namespace Role

def IsStorable (r : Role) : Prop :=
  r.attributes.IsStorable

theorem nodup_keys_fields {r : Role} : (Keyed.keys r.fields).Nodup := by
  simp [fields, List.nodup_append]

theorem readsBack_of_isStorable {r : Role} (h : r.IsStorable) : ReadsBack r := by
  have hattributes := Attributes.readsBack_of_isStorable h
  intro reading
  refine read_named nodup_keys_fields ?_
  repeat apply bind_part
  · rfl
  all_goals simp [fields, List.lookup_append, hattributes reading]

theorem fieldsReadable_fields {r : Role} : fieldsReadable r.fields := by
  simp [fields]

instance : Readable Role := ⟨fun _ => fieldsReadable_fields⟩

end Role

namespace Membership

def IsStorable (m : Membership) : Prop :=
  m.role.IsStorable ∧ m.attributes.IsStorable

theorem nodup_keys_fields {m : Membership} : (Keyed.keys m.fields).Nodup := by
  simp [fields]

theorem readsBack_of_isStorable {m : Membership} (h : m.IsStorable) : ReadsBack m := by
  have hrole := Role.readsBack_of_isStorable h.1
  have hattributes := Attributes.readsBack_of_isStorable h.2
  intro reading
  refine read_named nodup_keys_fields ?_
  repeat apply bind_part
  · rfl
  all_goals simp [fields, List.lookup_append, hrole reading, hattributes reading]

theorem fieldsReadable_fields {m : Membership} : fieldsReadable m.fields := by
  simp [fields]

instance : Readable Membership := ⟨fun _ => fieldsReadable_fields⟩

end Membership

namespace User

def IsStorable (u : User) : Prop :=
  u.attributes.IsStorable ∧ ∀ m ∈ u.memberships, m.IsStorable

theorem nodup_keys_fields {u : User} : (Keyed.keys u.fields).Nodup := by
  simp [fields, List.nodup_append]

theorem readsBack_of_isStorable {u : User} (h : u.IsStorable) : ReadsBack u := by
  have hattributes := Attributes.readsBack_of_isStorable h.1
  have hmemberships := readsBack_list fun m hm => Membership.readsBack_of_isStorable (h.2 m hm)
  intro reading
  refine read_named nodup_keys_fields ?_
  repeat apply bind_part
  · rfl
  all_goals simp [fields, List.lookup_append, hattributes reading, hmemberships reading]

theorem fieldsReadable_fields {u : User} : fieldsReadable u.fields := by
  simp [fields]

end User

/-- A tag among the fields of a value is found, and taken out again. -/
theorem Tagged.ofJson?_obj {name tag : String} {fields : List (String × Json)}
    (hreadable : fieldsReadable fields) (hnew : name ∉ Keyed.keys fields) :
    Tagged.ofJson? name (.obj ((name, .str tag) :: fields)) = some ⟨tag, .obj fields⟩ := by
  have hothers : ∀ f ∈ fields, f.1 ≠ name := fun f hf he => hnew (he ▸ List.mem_map_of_mem hf)
  have hnone : fields.filter (fun f => f.1 == name) = [] :=
    List.filter_eq_nil_iff.2 fun f hf => by simpa using hothers f hf
  have hall : fields.filter (fun f => f.1 != name) = fields :=
    List.filter_eq_self.2 fun f hf => by simpa using hothers f hf
  have hwhole : (Json.obj ((name, .str tag) :: fields)).isReadable := by
    simp [isReadable, fieldsReadable, hreadable]
  rw [Tagged.ofJson?, if_pos hwhole, Tagged.split?, if_neg]
  · simp [Json.str?, hall]
  · simp [Record.repeats, hnone]

namespace Subject

/-- Subjects that reach no plain attribute with a value that cannot be stored. -/
def IsStorable (s : Subject) : Prop :=
  ∀ kind, ∀ h ∈ s.related kind, ∀ a ∈ h.attributes.plain, ∀ d ∈ a.values, d.IsStorable

theorem IsStorable.user {u : User} (h : (Subject.user u).IsStorable) : u.IsStorable := by
  refine ⟨h .user u.holder (List.mem_singleton_self _), fun m hm => ⟨?_, ?_⟩⟩
  · exact h .role m.role.holder (List.mem_map_of_mem (List.mem_map_of_mem hm))
  · exact h .membership m.holder (List.mem_map_of_mem hm)

theorem IsStorable.role {r : Role} (h : (Subject.role r).IsStorable) : r.IsStorable :=
  h .role r.holder (List.mem_singleton_self _)

theorem IsStorable.membership {m : Membership} (h : (Subject.membership m).IsStorable) :
    m.IsStorable :=
  ⟨h .role m.role.holder (List.mem_singleton_self _),
    h .membership m.holder (List.mem_singleton_self _)⟩

/-- What is written with a kind is read late, as what the kind says. -/
theorem read?_obj {kind : SubjectKind} {fields : List (String × Json)} {reading : Reading}
    (hreadable : fieldsReadable fields) (hnew : "kind" ∉ Keyed.keys fields) :
    (read? reading (.obj (field "kind" kind ++ fields)) : Option Subject) =
      match kind with
      | .user => (read? .late (.obj fields)).map Subject.user
      | .role => (read? .late (.obj fields)).map Subject.role
      | .membership => (read? .late (.obj fields)).map Subject.membership := by
  have htagged : Tagged.ofJson? "kind" (.obj (field "kind" kind ++ fields)) =
      some ⟨word kind, .obj fields⟩ := Tagged.ofJson?_obj hreadable hnew
  have hword : (ofWord? (word kind) : Option SubjectKind) = some kind := by
    cases kind <;> rfl
  simp only [read?, htagged, Option.bind_eq_bind, Option.bind_some, hword]
  cases kind <;> rfl

/-- No part of a subject goes by the name under which its kind stands. -/
theorem readsBack_of_isStorable {s : Subject} (h : s.IsStorable) : ReadsBack s := by
  intro reading
  rcases s with u | r | m
  · refine (read?_obj User.fieldsReadable_fields ?_).trans ?_
    · simp [User.fields]
    · exact congrArg (Option.map Subject.user) (User.readsBack_of_isStorable h.user .late)
  · refine (read?_obj Role.fieldsReadable_fields ?_).trans ?_
    · simp [Role.fields]
    · exact congrArg (Option.map Subject.role) (Role.readsBack_of_isStorable h.role .late)
  · refine (read?_obj Membership.fieldsReadable_fields ?_).trans ?_
    · simp [Membership.fields]
    · exact congrArg (Option.map Subject.membership)
        (Membership.readsBack_of_isStorable h.membership .late)

end Subject

/-! ## Executions -/

namespace Execution

/-- Executions that began and ended at times that a clock can show. -/
def IsStorable (e : Execution) : Prop :=
  e.start.OnClock ∧ ∀ t ∈ e.finish, t.OnClock

theorem readsBack_of_isStorable {e : Execution} (h : e.IsStorable) : ReadsBack e := by
  have hstart := readsBack_instant h.1
  have hfinish : ReadsBack e.finish :=
    readsBack_option fun t ht => ⟨nofun, readsBack_instant (h.2 t ht)⟩
  intro reading
  refine read_named (by simp) ?_
  repeat apply bind_part
  · rfl
  all_goals simp [List.lookup_append, hstart reading, hfinish reading]

end Execution

/-- Resources are read back from what they are written as, and so are subjects whose values can all
be stored, however they are nested, and executions at times that a clock can show. -/
theorem fromJson?_toJson_stored :
    (∀ s : Subject, s.IsStorable → fromJson? (toJson s) = some s) ∧
      (∀ r : Resource, fromJson? (toJson r) = some r) ∧
      ∀ e : Execution, e.IsStorable → fromJson? (toJson e) = some e :=
  ⟨fun _ h => Subject.readsBack_of_isStorable h .straight, fun r => readsBack r .straight,
    fun _ h => Execution.readsBack_of_isStorable h .straight⟩

/-- A user who was hired when 1970 began, with a role that another role owns. -/
def hiredUser : User :=
  { User.bare ⟨1⟩ "ann" with
    password := some ⟨.aes, "c2VjcmV0"⟩
    attributes :=
      { plain := [⟨.single "height" .double, [.double ⟨0x3FF8000000000000⟩]⟩,
          ⟨.single "hired" .date, [.date ⟨0, 0⟩]⟩]
        derived := [⟨⟨"mail", "username + '@x.org'"⟩⟩]
        virtual := [⟨⟨"manager", false, true⟩, none⟩] }
    memberships :=
      [.bare ⟨2⟩ { Role.bare ⟨3⟩ "staff" with owner := some (.role "admins") }] }

theorem fromJson?_toJson_hiredUser :
    fromJson? (toJson (Subject.user hiredUser)) = some (Subject.user hiredUser) ∧
      fromJson? (toJson (Resource.bare "ldap" "directory")) =
        some (Resource.bare "ldap" "directory") ∧
      fromJson? (toJson (Execution.started ⟨0⟩ ⟨0, 0⟩)) =
        some (Execution.started ⟨0⟩ ⟨0, 0⟩) := by
  have hclock : Instant.OnClock ⟨0, 0⟩ := ⟨by decide, by decide, by decide⟩
  have hsubject : (Subject.user hiredUser).IsStorable := by
    have hheight : Double.isFinite ⟨0x3FF8000000000000⟩ := by decide
    rintro (_ | _ | _)
    · simp [Subject.related, User.holder, hiredUser, Datum.IsStorable, hheight, hclock]
    · simp [Subject.related, User.roles, Role.holder, hiredUser, User.bare, Membership.bare,
        Role.bare, Attributes.none]
    · simp [Subject.related, Membership.holder, hiredUser, User.bare, Membership.bare,
        Attributes.none]
  obtain ⟨hsubjects, hresources, hexecutions⟩ := fromJson?_toJson_stored
  exact ⟨hsubjects _ hsubject, hresources _, hexecutions _ ⟨hclock, nofun⟩⟩

end Provisioning
