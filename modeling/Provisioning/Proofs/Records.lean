import Mathlib.Data.List.Nodup
import Provisioning.Keyed
import Provisioning.Proofs.Identifiers
import Provisioning.Proofs.Rereading
import Provisioning.Resource

/-!
# Records that are read back

Words, identifiers, password policies, mappings and resources are read from what they are written as
(`LawfulJson`), and that is read from its text as it is (`Nesting`). A record is an object with no
name twice, so that each of its parts is found under its name and read by itself; a part that is
left out because it has no value is read as none.
-/

namespace Provisioning

open Json Json.Reader

/-- Types whose values are read from what they are written as, which is never null. -/
class LawfulJson (α : Type) [ToJson α] [FromJson α] : Prop where
  read_toJson : ∀ (reading : Reading) (x : α), read? reading (toJson x) = some x
  ne_null : ∀ x : α, toJson x ≠ .null

attribute [simp] LawfulJson.read_toJson

/-- Types whose values, as they are written, are read from their text as they are where `depth`
arrays and objects may nest. -/
class Nesting (α : Type) [ToJson α] (depth : outParam Nat) : Prop where
  reread_toJson : ∀ (x : α) (room : Nat), depth ≤ room → (toJson x).reread room = toJson x

section Values

instance : LawfulJson String where
  read_toJson _ _ := rfl
  ne_null _ h := by cases h

instance : Nesting String 0 where
  reread_toJson _ _ _ := rfl

instance : LawfulJson Bool where
  read_toJson _ _ := rfl
  ne_null _ h := by cases h

instance : Nesting Bool 0 where
  reread_toJson _ _ _ := rfl

instance : LawfulJson UInt32 where
  read_toJson reading n := by
    have hn : n.toNat < UInt32.size := n.toNat_lt
    show (intWithin? 0 (UInt32.size - 1) (.int n.toNat)).map (fun n => UInt32.ofNat n.toNat) =
      some n
    rw [intWithin?, if_pos (by omega)]
    simp
  ne_null _ h := by cases h

instance : Nesting UInt32 0 where
  reread_toJson n _ _ := by
    have hn : n.toNat < UInt32.size := n.toNat_lt
    simp only [UInt32.size] at hn
    exact Numeral.toJson_ofInt (by omega) (by simp only [Numeral.maxWord, UInt64.size]; omega)

instance : LawfulJson UInt8 where
  read_toJson reading n := by
    have hn : n.toNat < UInt8.size := n.toNat_lt
    show (intWithin? 0 (UInt8.size - 1) (.int n.toNat)).map (fun n => UInt8.ofNat n.toNat) = some n
    rw [intWithin?, if_pos (by omega)]
    simp
  ne_null _ h := by cases h

instance : Nesting UInt8 0 where
  reread_toJson n _ _ := by
    have hn : n.toNat < UInt8.size := n.toNat_lt
    simp only [UInt8.size] at hn
    exact Numeral.toJson_ofInt (by omega) (by simp only [Numeral.maxWord, UInt64.size]; omega)

instance : LawfulJson Identifier where
  read_toJson _ id := by
    show (some id.text >>= fun s => Identifier.ofText? s) = some id
    rw [Option.bind_eq_bind, Option.bind_some, Identifier.ofText?_text]
  ne_null _ h := by cases h

instance : Nesting Identifier 0 where
  reread_toJson _ _ _ := rfl

variable {α : Type}

instance [Worded α] : Nesting α 0 where
  reread_toJson _ _ _ := rfl

theorem lawful_of_word [Worded α] (h : ∀ x : α, ofWord? (word x) = some x) : LawfulJson α where
  read_toJson _ x := h x
  ne_null _ h := by cases h

instance : LawfulJson Operation := lawful_of_word (by intro x; cases x <;> rfl)

instance : LawfulJson Mode := lawful_of_word (by intro x; cases x <;> rfl)

instance : LawfulJson SubjectKind := lawful_of_word (by intro x; cases x <;> rfl)

instance : LawfulJson TraceLevel := lawful_of_word (by intro x; cases x <;> rfl)

instance : LawfulJson MappingPurpose := lawful_of_word (by intro x; cases x <;> rfl)

instance : LawfulJson InternalKind := lawful_of_word (by
  rintro (⟨owner, sort⟩ | owner | _ | _ | _ | _)
  · cases owner <;> cases sort <;> rfl
  · cases owner <;> rfl
  all_goals rfl)

variable [ToJson α]

/-- The value is read from what it is written as. -/
def ReadsBack [FromJson α] (x : α) : Prop :=
  ∀ reading : Reading, read? reading (toJson x) = some x

theorem readsBack [FromJson α] [LawfulJson α] (x : α) : ReadsBack x :=
  fun reading => LawfulJson.read_toJson reading x

theorem readsBack_list [FromJson α] :
    ∀ {xs : List α}, (∀ x ∈ xs, ReadsBack x) → ReadsBack xs
  | [], _ => fun _ => rfl
  | x :: xs, h => fun reading => by
    obtain ⟨hx, hxs⟩ := List.forall_mem_cons.1 h
    have hrest : eachOf? (read? reading) (xs.map toJson) = some xs := readsBack_list hxs reading
    show eachOf? (read? reading) ((x :: xs).map toJson) = some (x :: xs)
    rw [List.map_cons, eachOf?, hx reading, hrest]
    rfl

theorem eachOf?_toJson [FromJson α] [LawfulJson α] {reading : Reading} (xs : List α) :
    eachOf? (read? reading) (xs.map toJson) = some xs :=
  readsBack_list (fun x _ => readsBack x) reading

instance [FromJson α] [LawfulJson α] : LawfulJson (List α) where
  read_toJson _ xs := eachOf?_toJson xs
  ne_null _ h := by cases h

theorem rereadItems_toJson {depth room : Nat} [Nesting α depth] (h : depth ≤ room) :
    ∀ xs : List α, rereadItems room (xs.map toJson) = xs.map toJson
  | [] => rfl
  | x :: xs => by
    rw [List.map_cons, rereadItems, Nesting.reread_toJson x room h, rereadItems_toJson h xs]

instance {depth : Nat} [Nesting α depth] : Nesting (List α) (depth + 1) where
  reread_toJson xs room h := by
    show nested room (.arr (rereadItems (room - 1) (xs.map toJson))) = .arr (xs.map toJson)
    rw [nested, if_neg (by omega), rereadItems_toJson (by omega)]

instance {depth : Nat} [Nesting α depth] : Nesting (Option α) depth where
  reread_toJson x room h := by
    rcases x with _ | x
    · rfl
    · exact Nesting.reread_toJson x room h

end Values

/-! ## Parts of records -/

@[simp]
theorem Keyed.keys_append {α : Type} {entries entries' : List (String × α)} :
    Keyed.keys (entries ++ entries') = Keyed.keys entries ++ Keyed.keys entries' :=
  List.map_append

theorem readOption_of_ne_null {α : Type} [FromJson α] {reading : Reading} {j : Json}
    (h : j ≠ .null) : read? reading j = (read? reading j).map (some : α → Option α) := by
  cases j <;> first | contradiction | rfl

section Parts

variable {α : Type} [ToJson α] {name part : String} {x : α} {value : Option α} {room : Nat}
  {fields fields' : List (String × Json)}

theorem reread_obj (h : 0 < room) :
    (Json.obj fields).reread room = .obj (rereadFields (room - 1) fields) := by
  rw [reread, nested, if_neg (by omega)]

theorem rereadFields_append : ∀ {fields : List (String × Json)},
    rereadFields room (fields ++ fields') = rereadFields room fields ++ rereadFields room fields'
  | [] => rfl
  | (name, j) :: fields => by
    rw [List.cons_append, rereadFields, rereadFields, rereadFields_append, List.cons_append]

theorem keys_rereadFields : ∀ {fields : List (String × Json)},
    Keyed.keys (rereadFields room fields) = Keyed.keys fields
  | [] => rfl
  | (name, _) :: _ => congrArg (name :: ·) keys_rereadFields

theorem lookup_rereadFields : ∀ {fields : List (String × Json)},
    (rereadFields room fields).lookup part = (fields.lookup part).map (Json.reread room)
  | [] => rfl
  | (name, j) :: fields => by
    rw [rereadFields, List.lookup_cons, List.lookup_cons, lookup_rereadFields]
    split <;> rfl

theorem rereadFields_field {depth : Nat} [Nesting α depth] (h : depth ≤ room) :
    rereadFields room (field name x) = field name x := by
  rw [field, rereadFields, Nesting.reread_toJson x room h]
  rfl

theorem rereadFields_fieldIfAny {depth : Nat} [Nesting α depth] (h : depth ≤ room) :
    rereadFields room (fieldIfAny name value) = fieldIfAny name value := by
  rcases value with _ | x
  · rfl
  · exact rereadFields_field h

@[simp]
theorem keys_field : Keyed.keys (field name x) = [name] :=
  rfl

@[simp]
theorem mem_keys_fieldIfAny :
    part ∈ Keyed.keys (fieldIfAny name value) ↔ part = name ∧ value.isSome := by
  rcases value with _ | x <;> simp [fieldIfAny, Keyed.keys]

@[simp]
theorem nodup_keys_fieldIfAny : (Keyed.keys (fieldIfAny name value)).Nodup := by
  rcases value with _ | x <;> simp [fieldIfAny, Keyed.keys]

@[simp]
theorem lookup_field :
    (field name x).lookup part = if part = name then some (toJson x) else none := by
  by_cases h : part = name
  · simp [field, h]
  · have hb : (part == name) = false := beq_eq_false_iff_ne.2 h
    simp [field, List.lookup_cons, hb, h]

@[simp]
theorem lookup_fieldIfAny : (fieldIfAny name value).lookup part =
    if part = name then value.map toJson else none := by
  rcases value with _ | x
  · simp [fieldIfAny]
  · exact lookup_field

/-- An object with no name twice is a record. -/
theorem Record.ofJson?_obj {reading : Reading} {names : List String}
    (h : (Keyed.keys fields).Nodup) :
    Record.ofJson? reading names (.obj fields) = some ⟨reading, fields, true⟩ := by
  have hrepeats (name : String) : Record.repeats fields name = false := by
    have hcount : (Keyed.keys fields).count name ≤ 1 := List.nodup_iff_count_le_one.1 h name
    rw [Keyed.keys, List.count, List.countP_map, List.countP_eq_length_filter] at hcount
    exact decide_eq_false (Nat.not_lt_of_le hcount)
  rw [Record.ofJson?, if_neg (by simp [hrepeats])]

theorem readsBack_option [FromJson α] (h : ∀ x ∈ value, toJson x ≠ .null ∧ ReadsBack x) :
    ReadsBack value := by
  intro reading
  rcases value with _ | x
  · rfl
  · obtain ⟨hne, hx⟩ := h x rfl
    calc read? reading (toJson (some x)) = (read? reading (toJson x)).map some :=
          readOption_of_ne_null hne
      _ = some (some x) := by rw [hx reading, Option.map_some]

variable [FromJson α] [LawfulJson α] {reading : Reading}

@[simp]
theorem readOption_toJson : read? reading (toJson value) = some value :=
  readsBack_option (fun x _ => ⟨LawfulJson.ne_null x, readsBack x⟩) reading

/-- What is there or left out is read as some value or none. -/
@[simp]
theorem readIfAny_toJson :
    (value.map (read? reading ∘ toJson)).getD (some (none : Option α)) = some value := by
  rcases value with _ | x
  · rfl
  · exact @readOption_toJson _ _ (some x) _ _ _

end Parts

/-- A record is read by reading one part and then the others. -/
theorem bind_part {α β : Type} {part : Option α} {others : α → Option β} {x : α} {y : β}
    (h : others x = some y) (hpart : part = some x) : part >>= others = some y := by
  rw [hpart]
  exact h

/-- A record is read from an object with no name twice by reading its parts. -/
theorem read_named {α : Type} {reading : Reading} {names : List String}
    {fields : List (String × Json)} {parts : Record → Option α} {x : α}
    (hnodup : (Keyed.keys fields).Nodup) (h : parts ⟨reading, fields, true⟩ = some x) :
    (Record.ofJson? reading names (.obj fields) >>= parts) = some x := by
  rw [Record.ofJson?_obj hnodup, Option.bind_eq_bind, Option.bind_some, h]

section Named

variable {α : Type} [FromJson α] {reading : Reading} {name : String}
  {fields : List (String × Json)} {default : α}

@[simp]
theorem required_named : (⟨reading, fields, true⟩ : Record).required name =
    (fields.lookup name).bind fun j => (read? reading j : Option α) :=
  rfl

@[simp]
theorem withDefault_named : (⟨reading, fields, true⟩ : Record).withDefault name default =
    ((fields.lookup name).map (read? reading)).getD (some default) := by
  rw [Record.withDefault, Record.part?]
  rcases fields.lookup name with _ | j <;> rfl

@[simp]
theorem optional_named : (⟨reading, fields, true⟩ : Record).optional name =
    ((fields.lookup name).map (read? reading)).getD (some (none : Option α)) := by
  rw [Record.optional, Record.part?]
  rcases fields.lookup name with _ | j <;> rfl

end Named

/-! ## Records -/

instance : LawfulJson MappingItem where
  read_toJson reading i := by
    refine read_named (by simp) ?_
    repeat apply bind_part
    · rfl
    all_goals simp [List.lookup_append]
  ne_null _ h := by cases h

instance : Nesting MappingItem 1 where
  reread_toJson i room h := by
    simp only [ToJson.toJson]
    rw [reread_obj (by omega)]
    simp (disch := omega) only [rereadFields_append, rereadFields_field]

instance : LawfulJson Mapping where
  read_toJson reading m := by
    refine read_named (by simp) ?_
    repeat apply bind_part
    · rfl
    all_goals simp [List.lookup_append]
  ne_null _ h := by cases h

instance : Nesting Mapping 3 where
  reread_toJson m room h := by
    simp only [ToJson.toJson]
    rw [reread_obj (by omega)]
    simp (disch := omega) only [rereadFields_append, rereadFields_field]

instance : LawfulJson PasswordPolicy where
  read_toJson reading p := by
    refine read_named (by simp) ?_
    repeat apply bind_part
    · rfl
    all_goals simp [List.lookup_append]
  ne_null _ h := by cases h

instance : Nesting PasswordPolicy 2 where
  reread_toJson p room h := by
    simp only [ToJson.toJson]
    rw [reread_obj (by omega)]
    simp (disch := omega) only [rereadFields_append, rereadFields_field]

instance : LawfulJson Resource where
  read_toJson reading r := by
    refine read_named ?_ ?_
    · simp [List.nodup_append]
      grind
    · repeat apply bind_part
      · rfl
      all_goals simp [List.lookup_append]
  ne_null _ h := by cases h

instance : Nesting Resource 4 where
  reread_toJson r room h := by
    simp only [ToJson.toJson]
    rw [reread_obj (by omega)]
    simp (disch := omega) only [rereadFields_append, rereadFields_field, rereadFields_fieldIfAny]

end Provisioning
