import Provisioning.Proofs.Records
import Provisioning.Proofs.Tables
import Provisioning.Task.Basic

/-!
# Tasks that are read back

Everything in a task but its attributes is read from the task's text as it was. An attribute's value
is written without a word of what it is, so that an array that holds nothing but bytes is taken for
binary data (`byte?_reread`), the empty array with it; doubles may be rounded to others
(`exists_float_not_survives`); and what nests too deep is not read at all. All other values survive
(`ofJson?_reread`), and a task is read from its text as it was exactly if all its values do
(`restored?_iff`).
-/

namespace Provisioning

open Json Json.Reader

/-- What is read of the text that a value is written as. -/
def restored? {α : Type} [ToJson α] [FromJson α] (x : α) : Option α :=
  (Json.ofText? (toJson x).text).bind fromJson?

theorem restored?_eq {α : Type} [ToJson α] [FromJson α] (x : α) :
    restored? x = fromJson? ((toJson x).reread 127) := by
  rw [restored?, ofText?_text, Option.bind_some]

namespace AttributeValue

/-- Whether a value alone would be read as a byte. -/
def isByte : AttributeValue → Bool
  | .integer n => decide (0 ≤ n.toInt) && decide (n.toInt < 256)
  | _ => false

mutual

/-- Whether a value is read from its text as it was, where `depth` arrays may nest. -/
def survives (depth : Nat) : AttributeValue → Prop
  | .null => True
  | .string _ => True
  | .integer _ => True
  | .boolean _ => True
  | .float d => Json.ofText? (Json.double d).text = some (.double d)
  | .binary _ => 0 < depth
  | .array items => 0 < depth ∧ items.all isByte = false ∧ allSurvive (depth - 1) items

def allSurvive (depth : Nat) : List AttributeValue → Prop
  | [] => True
  | v :: vs => v.survives depth ∧ allSurvive depth vs

end

variable {depth : Nat} {v : AttributeValue} {vs : List AttributeValue}

theorem reread_integer {n : Int64} : (toJson (.integer n)).reread depth = .int n.toInt := by
  have hlow := n.le_toInt
  have hhigh := n.toInt_lt
  exact Numeral.toJson_ofInt (by simpa using hlow)
    (by simp only [Numeral.maxWord, UInt64.size]; omega)

theorem reread_float {d : Double} :
    (toJson (.float d)).reread depth = (Json.double d).reread depth := by
  show (if d.isFinite then Json.double d else .null).reread depth = _
  by_cases hd : d.isFinite
  · rw [if_pos hd]
  · rw [if_neg hd, reread, reread, if_neg hd]

/-- Where a double was written null, nothing or a double is read. -/
theorem reread_double {d : Double} : (Json.double d).reread depth = .null ∨
    (Json.double d).reread depth = .unreadable ∨ ∃ x, (Json.double d).reread depth = .double x := by
  rw [reread]
  by_cases hd : d.isFinite
  · rw [if_pos hd, Numeral.toJson_ofDouble]
    rcases (Numeral.ofDouble d).toDouble? with _ | x
    · exact .inr (.inl rfl)
    · exact .inr (.inr ⟨x, rfl⟩)
  · exact .inl (if_neg hd)

theorem survives_float {d : Double} :
    survives depth (.float d) ↔ (Json.double d).reread depth = .double d := by
  have hdepth : (Json.double d).reread depth = (Json.double d).reread 127 := by
    rw [reread, reread]
  rw [survives, ofText?_text, Option.some.injEq, hdepth]

/-- The double nearest to `31.245270191439438`, which is its shortest decimal, comes back as the
double above it. -/
theorem exists_float_not_survives :
    ∃ d : Double, d.isFinite ∧ ∀ depth, ¬ (AttributeValue.float d).survives depth := by
  refine ⟨⟨0x403F3ECA06FAEA82⟩, by decide, fun depth => ?_⟩
  have hread : (Numeral.ofDouble ⟨0x403F3ECA06FAEA82⟩).toDouble? = some ⟨0x403F3ECA06FAEA83⟩ := by
    decide +kernel
  rw [survives_float, reread, if_pos (by decide), Numeral.toJson_ofDouble, hread]
  simp

theorem reread_arr {items : List Json} :
    (Json.arr items).reread depth = .unreadable ∨
      (Json.arr items).reread depth = .arr (rereadItems (depth - 1) items) := by
  rw [reread, nested]
  split_ifs
  · exact .inl rfl
  · exact .inr rfl

/-- Bytes are the only values that are read as bytes. -/
theorem byte?_reread : (Json.byte? (v.toJson.reread depth)).isSome = v.isByte := by
  rcases v with _ | s | n | b | d | bytes | items
  · rfl
  · rfl
  · rw [reread_integer, byte?, Option.isSome_map, intWithin?, isByte]
    have hsize : ((UInt8.size : Int) - 1) = 255 := rfl
    split_ifs <;> simp <;> omega
  · rfl
  · rw [reread_float]
    rcases @reread_double depth d with h | h | ⟨x, h⟩ <;> rw [h] <;> rfl
  · rcases @reread_arr depth (bytes.map ToJson.toJson) with h | h
    · exact congrArg (fun j => (Json.byte? j).isSome) h
    · exact congrArg (fun j => (Json.byte? j).isSome) h
  · rcases @reread_arr depth (itemsToJson items) with h | h
    · exact congrArg (fun j => (Json.byte? j).isSome) h
    · exact congrArg (fun j => (Json.byte? j).isSome) h

theorem eachOf?_byte_reread : ∀ {vs : List AttributeValue},
    (eachOf? Json.byte? (rereadItems depth (itemsToJson vs))).isSome = vs.all isByte
  | [] => rfl
  | v :: vs => by
    rw [itemsToJson, rereadItems, eachOf?, List.all_cons, ← eachOf?_byte_reread,
      ← @byte?_reread depth]
    rcases Json.byte? (v.toJson.reread depth) with _ | b
    · rfl
    · rcases eachOf? Json.byte? (rereadItems depth (itemsToJson vs)) <;> rfl

theorem ofJson?_reread_float {d : Double} :
    ofJson? ((toJson (.float d)).reread depth) = some (.float d) ↔ survives depth (.float d) := by
  rw [survives_float, reread_float]
  rcases @reread_double depth d with h | h | ⟨x, h⟩ <;> rw [h] <;> simp [ofJson?]

theorem ofJson?_reread_binary {bytes : List UInt8} :
    ofJson? ((toJson (.binary bytes)).reread depth) = some (.binary bytes) ↔
      survives depth (.binary bytes) := by
  rw [survives]
  rcases depth with _ | depth
  · exact iff_of_false nofun (Nat.lt_irrefl 0)
  · have hkept : (toJson (.binary bytes)).reread (depth + 1) = .arr (bytes.map ToJson.toJson) :=
      Nesting.reread_toJson bytes (depth + 1) (Nat.le_add_left 1 depth)
    have hbytes : eachOf? Json.byte? (bytes.map ToJson.toJson) = some bytes :=
      @eachOf?_toJson UInt8 _ _ _ .straight bytes
    rw [hkept, ofJson?, hbytes]
    exact iff_of_true rfl (Nat.succ_pos depth)

mutual

/-- A value comes back exactly if it survives. -/
theorem ofJson?_reread : ∀ {v : AttributeValue} {depth : Nat},
    ofJson? (v.toJson.reread depth) = some v ↔ v.survives depth
  | .null, _ => iff_of_true rfl trivial
  | .string s, _ => iff_of_true rfl trivial
  | .boolean b, _ => iff_of_true rfl trivial
  | .integer n, depth => by
    have hlow := n.le_toInt
    have hhigh := n.toInt_lt
    rw [reread_integer, ofJson?, if_pos ⟨by simpa using hlow, by simpa using hhigh⟩,
      Int64.ofInt_toInt]
    exact iff_of_true rfl trivial
  | .float d, _ => ofJson?_reread_float
  | .binary bytes, _ => ofJson?_reread_binary
  | .array items, 0 => iff_of_false nofun fun h => Nat.lt_irrefl 0 h.1
  | .array items, depth + 1 => by
    have hitems : (toJson (.array items)).reread (depth + 1) =
        .arr (rereadItems depth (itemsToJson items)) := rfl
    have hbytes := @eachOf?_byte_reread depth items
    rw [hitems, ofJson?, survives, ← hbytes, ← itemsOfJson?_reread]
    rcases eachOf? Json.byte? (rereadItems depth (itemsToJson items)) with _ | bytes
    · simp
    · simp

theorem itemsOfJson?_reread : ∀ {vs : List AttributeValue} {depth : Nat},
    itemsOfJson? (rereadItems depth (itemsToJson vs)) = some vs ↔ allSurvive depth vs
  | [], _ => iff_of_true rfl trivial
  | v :: vs, depth => by
    rw [itemsToJson, rereadItems, itemsOfJson?, allSurvive, ← ofJson?_reread, ← itemsOfJson?_reread]
    rcases ofJson? (v.toJson.reread depth) with _ | w
    · simp
    · rcases itemsOfJson? (rereadItems depth (itemsToJson vs)) with _ | ws <;> simp

end

end AttributeValue

theorem Keyed.put_of_not_mem {α : Type} {key : String} {value : α} :
    ∀ {entries : List (String × α)}, key ∉ Keyed.keys entries →
      Keyed.put key value entries = entries ++ [(key, value)]
  | [], _ => rfl
  | entry :: entries, h => by
    rw [Keyed.keys, List.map_cons, List.mem_cons, not_or] at h
    rw [Keyed.put, if_neg (Ne.symm h.1), Keyed.put_of_not_mem h.2]
    rfl

namespace AttributeSet

variable {s : AttributeSet} {depth : Nat} {entries : List (String × AttributeValue)}
  {name : String} {value : AttributeValue}

theorem foldl_set_entries : ∀ {entries : List (String × AttributeValue)} {s : AttributeSet},
    (Keyed.keys (s.entries ++ entries)).Nodup →
      (entries.foldl (fun s entry => s.set entry.1 entry.2) s).entries = s.entries ++ entries
  | [], s, _ => (List.append_nil s.entries).symm
  | (name, value) :: entries, s, h => by
    have hnew : name ∉ Keyed.keys s.entries := by
      rw [Keyed.keys_append, List.nodup_append] at h
      exact fun hm => h.2.2 name hm name List.mem_cons_self rfl
    have hset : (s.set name value).entries = s.entries ++ [(name, value)] :=
      Keyed.put_of_not_mem hnew
    rw [List.foldl_cons, foldl_set_entries (by rwa [hset, ← List.append_cons]), hset,
      ← List.append_cons]

/-- Entries with different names make the set that they are the entries of. -/
theorem entries_ofList (h : (Keyed.keys entries).Nodup) : (ofList entries).entries = entries :=
  foldl_set_entries h

/-- The fields in which entries are written. -/
def fieldsOf (entries : List (String × AttributeValue)) : List (String × Json) :=
  entries.map fun e => (e.1, e.2.toJson)

theorem entriesOfJson?_cons :
    entriesOfJson? (rereadFields depth (fieldsOf ((name, value) :: entries))) = do
      return (name, ← AttributeValue.ofJson? (value.toJson.reread depth)) ::
        (← entriesOfJson? (rereadFields depth (fieldsOf entries))) :=
  rfl

theorem entriesOfJson?_reread : ∀ {entries : List (String × AttributeValue)},
    entriesOfJson? (rereadFields depth (fieldsOf entries)) = some entries ↔
      ∀ e ∈ entries, e.2.survives depth
  | [] => iff_of_true rfl fun _ h => absurd h List.not_mem_nil
  | (name, v) :: entries => by
    rw [List.forall_mem_cons, ← entriesOfJson?_reread, ← AttributeValue.ofJson?_reread,
      entriesOfJson?_cons]
    rcases AttributeValue.ofJson? (v.toJson.reread depth) with _ | w
    · simp
    · rcases entriesOfJson? (rereadFields depth (fieldsOf entries)) with _ | es <;> simp

/-- The names are read as they were. -/
theorem keys_of_entriesOfJson? : ∀ {entries found : List (String × AttributeValue)},
    entriesOfJson? (rereadFields depth (fieldsOf entries)) = some found →
      Keyed.keys found = Keyed.keys entries
  | [], found, h => by
    obtain rfl := Option.some.inj h
    rfl
  | (name, v) :: entries, found, h => by
    rw [entriesOfJson?_cons] at h
    rcases hw : AttributeValue.ofJson? (v.toJson.reread depth) with _ | w
    · simp [hw] at h
    · rcases hes : entriesOfJson? (rereadFields depth (fieldsOf entries)) with _ | es
      · simp [hw, hes] at h
      · obtain rfl : (name, w) :: es = found := by simpa [hw, hes] using h
        exact congrArg (name :: ·) (keys_of_entriesOfJson? hes)

/-- A set comes back exactly if its values do. -/
theorem ofJson?_reread : ofJson? ((toJson s).reread (depth + 1)) = some s ↔
    ∀ name v, s.get? name = some v → v.survives depth := by
  have hread : ofJson? ((toJson s).reread (depth + 1)) =
      (entriesOfJson? (rereadFields depth (fieldsOf s.entries))).map ofList := rfl
  have hvalues : (∀ name v, s.get? name = some v → v.survives depth) ↔
      ∀ e ∈ s.entries, e.2.survives depth := by
    simp only [Prod.forall, mem_entries_iff]
  rw [hread, hvalues, ← entriesOfJson?_reread, Option.map_eq_some_iff]
  constructor
  · rintro ⟨found, hfound, hs⟩
    have hkeys := keys_of_entriesOfJson? hfound
    have hentries := entries_ofList (hkeys ▸ s.nodup : (Keyed.keys found).Nodup)
    rw [hfound, ← hentries, hs]
  · exact fun h => ⟨s.entries, h, ext_entries (entries_ofList s.nodup)⟩

end AttributeSet

namespace Task

variable {t : Task}

/-- Only the attributes of a task may come back as others. -/
theorem restored?_eq_map : restored? t =
    (AttributeSet.ofJson? ((toJson t.attributes).reread 126)).map fun attributes =>
      { t with attributes := attributes } := by
  rw [restored?_eq, show toJson t = .obj _ from rfl, reread_obj (by decide)]
  simp (disch := omega) only [rereadFields_append, rereadFields_field]
  simp only [fromJson?, FromJson.read?]
  rw [Record.ofJson?_obj]
  · have hread : (read? .straight ((toJson t.attributes).reread 126) : Option AttributeSet) =
        AttributeSet.ofJson? ((toJson t.attributes).reread 126) := rfl
    rcases hattributes : AttributeSet.ofJson? ((toJson t.attributes).reread 126) <;>
      rw [hattributes] at hread <;>
      simp [required_named, optional_named, List.lookup_append, lookup_field, lookup_rereadFields,
        LawfulJson.read_toJson, readOption_toJson, hread]
  · simp [Keyed.keys_append, keys_rereadFields, keys_field]

/-- A task comes back from its text as it was exactly if all its values survive, with 125 arrays
nested in them at most. -/
theorem restored?_iff (t : Task) : restored? t = some t ↔
    ∀ name v, t.attributes.get? name = some v → v.survives 125 := by
  rw [← AttributeSet.ofJson?_reread, restored?_eq_map, Option.map_eq_some_iff]
  constructor
  · rintro ⟨attributes, hread, ht⟩
    rw [hread, ← ht]
  · exact fun h => ⟨t.attributes, h, rfl⟩

/-- A task that takes a user out of all groups and gives two ports. -/
def withPorts : Task :=
  { plain ⟨0⟩ .update .user ⟨0⟩ (.bare "ldap" "directory") with
    attributes := (AttributeSet.empty.set "groups" (.array [])).set "ports"
      (.array [.integer 22, .integer 80]) }

/-- A task without a double in it, which comes back with binary data for its two attributes. A task
with a double may miss that one, too (`AttributeValue.exists_float_not_survives`). -/
theorem restored?_withPorts :
    (∀ name v d, withPorts.attributes.get? name = some v → .float d ∉ v.values) ∧
      restored? withPorts = some { withPorts with
        attributes :=
          (AttributeSet.empty.set "groups" (.binary [])).set "ports" (.binary [22, 80]) } ∧
      restored? withPorts ≠ some withPorts := by
  have hrestored : restored? withPorts = some { withPorts with
      attributes :=
        (AttributeSet.empty.set "groups" (.binary [])).set "ports" (.binary [22, 80]) } := by
    rw [restored?_eq_map]
    rfl
  refine ⟨fun name v d hv => ?_, hrestored, ?_⟩
  · have hv : ((AttributeSet.empty.set "groups" (.array [])).set "ports"
        (.array [.integer 22, .integer 80])).get? name = some v := hv
    rw [AttributeSet.get?_set, AttributeSet.get?_set] at hv
    split_ifs at hv
    · obtain rfl := Option.some.inj hv
      simp [AttributeValue.values, AttributeValue.valuesOf]
    · obtain rfl := Option.some.inj hv
      exact List.not_mem_nil
    · cases hv
  · rw [hrestored]
    intro h
    have hgroups := congrArg (fun t => (Option.map attributes t).bind fun s => s.get? "groups") h
    cases hgroups

end Task

end Provisioning
