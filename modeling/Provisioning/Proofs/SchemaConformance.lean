import Provisioning.Proofs.Runs
import Provisioning.Proofs.StoredSubjects

/-!
# Attributes and their schemas

A schema accepts values exactly if they fit it (`PlainSchema.validate_eq_ok`). So what is built
conforms, and it still does when it comes back from where it was stored (`Conforms.read`); nothing
else conforms (`obtained`). Reading, however, checks nothing: an attribute that does not conform is
read like any other, alone or within a subject.
-/

namespace Provisioning

open Json

theorem unit_bind_eq_ok {ε β : Type} {x : Except ε Unit} {next : Unit → Except ε β} {y : β} :
    (x >>= next) = .ok y ↔ x = .ok () ∧ next () = .ok y := by
  rw [bind_eq_ok]
  exact ⟨fun ⟨_, hx, hy⟩ => ⟨hx, hy⟩, fun ⟨hx, hy⟩ => ⟨(), hx, hy⟩⟩

theorem forM_eq_ok {ε α : Type} {f : α → Except ε Unit} :
    ∀ {xs : List α}, xs.forM f = .ok () ↔ ∀ x ∈ xs, f x = .ok ()
  | [] => by simp [pure, Except.pure]
  | x :: xs => by
    show (f x >>= fun _ => xs.forM f) = .ok () ↔ _
    rw [unit_bind_eq_ok, List.forall_mem_cons, ← forM_eq_ok]

namespace PlainSchema

variable {s : PlainSchema} {d : Datum} {values : List Datum}

/-- Values that fit a schema: one at most unless there may be several, all of its type, and among
its choices if it lists any. -/
structure Fits (s : PlainSchema) (values : List Datum) : Prop where
  count : s.multivalue = false → values.length ≤ 1
  type : ∀ d ∈ values, d.type = s.type
  choice : ∀ choice, .enum choice ∈ values → s.enumValues ≠ [] → choice ∈ s.enumValues

theorem validateValue_eq_ok : s.validateValue d = .ok () ↔
    d.type = s.type ∧ ∀ choice, d = .enum choice → s.enumValues ≠ [] → choice ∈ s.enumValues := by
  unfold validateValue
  split_ifs with htype
  · simp [htype]
  have htype : d.type = s.type := not_not.1 htype
  simp only [htype, true_and]
  split
  · rename_i choice _
    have hallows : s.allows choice ↔ (s.enumValues ≠ [] → choice ∈ s.enumValues) := by
      simp [allows, or_iff_not_imp_left]
    split_ifs with h
    · simpa using hallows.1 h
    · simpa using fun hn => h (hallows.2 hn)
  · rename_i hother
    simpa using fun choice hd => absurd hd (hother choice)

theorem validate_eq_ok : s.validate values = .ok () ↔ s.Fits values := by
  unfold validate
  split_ifs with hcount
  · simp only [Bool.and_eq_true, Bool.not_eq_true', decide_eq_true_eq] at hcount
    refine iff_of_false nofun fun h => ?_
    exact absurd (h.count hcount.1) (Nat.not_le_of_lt hcount.2)
  · simp only [Bool.and_eq_true, Bool.not_eq_true', decide_eq_true_eq, not_and, not_lt] at hcount
    rw [forM_eq_ok]
    simp only [validateValue_eq_ok]
    constructor
    · exact fun h => ⟨hcount, fun d hd => (h d hd).1, fun choice hd => (h _ hd).2 choice rfl⟩
    · exact fun h d hd => ⟨h.type d hd, fun choice he => h.choice choice (he ▸ hd)⟩

end PlainSchema

/-! ## What is read -/

theorem exists_of_eachOf? {α : Type} {item? : Json → Option α} :
    ∀ {js : List Json} {xs : List α}, eachOf? item? js = some xs →
      xs.length = js.length ∧ ∀ x ∈ xs, ∃ j ∈ js, item? j = some x
  | [], xs, h => by
    obtain rfl := Option.some.inj h
    simp
  | j :: js, xs, h => by
    simp only [eachOf?, Option.bind_eq_bind, Option.bind_eq_some_iff] at h
    obtain ⟨x, hx, rest, hrest, hxs⟩ := h
    obtain rfl := Option.some.inj hxs
    obtain ⟨hlength, hmem⟩ := exists_of_eachOf? hrest
    refine ⟨by simp [hlength], List.forall_mem_cons.2 ⟨⟨j, by simp, hx⟩, fun y hy => ?_⟩⟩
    obtain ⟨k, hk, hy⟩ := hmem y hy
    exact ⟨k, List.mem_cons_of_mem j hk, hy⟩

namespace Datum

variable {d d' : Datum} {reading : Reading}

theorem type_of_ofContent? {j : Json} {type : SchemaType} (h : ofContent? j type = some d) :
    d.type = type := by
  rcases type with _ | _ | _ | _ | _ | _ | _ <;>
    simp only [ofContent?, Option.map_eq_some_iff] at h <;>
    obtain ⟨_, -, rfl⟩ := h <;>
    rfl

theorem type_of_read? (h : read? reading (toJson d) = some d') : d'.type = d.type := by
  rw [read?_toJson] at h
  exact type_of_ofContent? h

theorem enum_of_read? {choice : String} (h : read? reading (toJson d) = some (Datum.enum choice)) :
    d = .enum choice := by
  have htype : SchemaType.enum = d.type := type_of_read? h
  rw [read?_toJson] at h
  rcases d with _ | _ | _ | _ | _ | s | _ <;> simp only [type, reduceCtorEq] at htype
  rw [@ofContent?_contentToJson (.enum s) trivial] at h
  exact Option.some.inj h

end Datum

namespace PlainAttribute

variable {schema : PlainSchema} {values : List Datum} {a a' : PlainAttribute} {reading : Reading}

/-- Attributes whose values fit their schema. -/
def Conforms (a : PlainAttribute) : Prop :=
  a.schema.Fits a.values

theorem create_eq_ok : create schema values = .ok a ↔ schema.Fits values ∧ a = ⟨schema, values⟩ := by
  unfold create
  rw [unit_bind_eq_ok, ← PlainSchema.validate_eq_ok]
  simp [eq_comm, pure, Except.pure]

theorem conforms_string {name value : String} : (string name value).Conforms :=
  ⟨fun _ => le_rfl, by simp [string, Datum.type, PlainSchema.single], by simp [string]⟩

theorem read?_toJson : (read? reading (toJson a) : Option PlainAttribute) =
    (eachOf? (read? reading) (a.values.map toJson)).map fun values => ⟨a.schema, values⟩ := by
  have hvalues : eachOf? (read? reading) (a.values.map toJson) =
      (read? reading (toJson a.values) : Option (List Datum)) := rfl
  rw [hvalues]
  conv_lhs => simp only [FromJson.read?, ToJson.toJson]
  rw [Record.ofJson?_obj (by simp)]
  simp [List.lookup_append, Option.map_eq_bind]

/-- What is read from where a conforming attribute was stored conforms. -/
theorem Conforms.read (h : a.Conforms) (hread : read? reading (toJson a) = some a') :
    a'.Conforms := by
  rw [read?_toJson] at hread
  obtain ⟨values, hvalues, rfl⟩ := Option.map_eq_some_iff.1 hread
  obtain ⟨hlength, hmem⟩ := exists_of_eachOf? hvalues
  have hwritten : ∀ d' ∈ values, ∃ d ∈ a.values, read? reading (toJson d) = some d' := by
    intro d' hd'
    obtain ⟨j, hj, hd⟩ := hmem d' hd'
    obtain ⟨d, hd', rfl⟩ := List.mem_map.1 hj
    exact ⟨d, hd', hd⟩
  refine ⟨fun hs => ?_, fun d' hd' => ?_, fun choice hc => ?_⟩
  · rw [hlength, List.length_map]
    exact h.count hs
  · obtain ⟨d, hd, hread⟩ := hwritten d' hd'
    exact (Datum.type_of_read? hread).trans (h.type d hd)
  · obtain ⟨d, hd, hread⟩ := hwritten _ hc
    exact h.choice choice (Datum.enum_of_read? hread ▸ hd)

/-- Attributes that are built, or come back from where such attributes were stored. -/
inductive Built : PlainAttribute → Prop
  | created {schema : PlainSchema} {values : List Datum} {a : PlainAttribute}
      (h : create schema values = .ok a) : Built a
  | string (name value : String) : Built (.string name value)
  | restored {a a' : PlainAttribute} {reading : Reading} (built : Built a)
      (h : read? reading (toJson a) = some a') : Built a'

theorem Built.conforms (h : a.Built) : a.Conforms := by
  induction h with
  | created h =>
    obtain ⟨hfits, rfl⟩ := create_eq_ok.1 h
    exact hfits
  | string name value => exact conforms_string
  | restored _ h ih => exact ih.read h

theorem built_iff : a.Built ↔ a.Conforms :=
  ⟨Built.conforms, fun h => .created (create_eq_ok.2 ⟨h, rfl⟩)⟩

/-- What is built conforms, and nothing else does. What is read need not: every attribute whose
values can be stored is read back, and every such subject with all its attributes, whether they
conform or not. -/
theorem obtained (a : PlainAttribute) (s : Subject) :
    (a.Built ↔ a.schema.validate a.values = .ok ()) ∧
      (a.schema.validate a.values = .ok () ↔ a.schema.Fits a.values) ∧
      (a.IsStorable → fromJson? (toJson a) = some a) ∧
      (s.IsStorable → fromJson? (toJson s) = some s) :=
  ⟨built_iff.trans PlainSchema.validate_eq_ok.symm, PlainSchema.validate_eq_ok,
    fun h => readsBack_of_isStorable h .straight,
    fun h => Subject.readsBack_of_isStorable h .straight⟩

/-- Two ports where there may be one. -/
def twoPorts : PlainAttribute :=
  ⟨.single "port" .long, [.long 22, .long 80]⟩

/-- A role with two ports where there may be one. -/
def roleWithTwoPorts : Role :=
  { Role.bare ⟨1⟩ "staff" with attributes := Attributes.none.addPlain twoPorts }

theorem obtained_twoPorts :
    ¬twoPorts.Built ∧ fromJson? (toJson twoPorts) = some twoPorts ∧
      fromJson? (toJson (Subject.role roleWithTwoPorts)) =
        some (Subject.role roleWithTwoPorts) := by
  have hvalues : twoPorts.IsStorable := by simp [IsStorable, twoPorts, Datum.IsStorable]
  have hsubject : (Subject.role roleWithTwoPorts).IsStorable := by
    rintro (_ | _ | _)
    · simp [Subject.related]
    · simpa [Subject.related, Role.holder, roleWithTwoPorts, Role.bare, Attributes.none,
        Attributes.addPlain] using fun d hd => hvalues d hd
    · simp [Subject.related]
  obtain ⟨hbuilt, -, hread, hreads⟩ := obtained twoPorts (Subject.role roleWithTwoPorts)
  refine ⟨fun h => ?_, hread hvalues, hreads hsubject⟩
  exact absurd (hbuilt.1 h) (by decide)

/-- A single-valued attribute is read with two values, the second of another type, although its
schema refuses them. -/
theorem read_not_conforming :
    (fromJson? (.obj [
        ("schema", .obj [("name", .str "port"), ("schema_type", .str "long")]),
        ("values", .arr [.obj [("type", .str "long"), ("value", .int 22)],
          .obj [("type", .str "string"), ("value", .str "any")]])]) : Option PlainAttribute) =
      some ⟨.single "port" .long, [.long 22, .string "any"]⟩ ∧
    (PlainSchema.single "port" .long).validate [.long 22, .string "any"] =
      .error (.tooManyValues "port" 2) :=
  ⟨rfl, rfl⟩

end PlainAttribute

end Provisioning
