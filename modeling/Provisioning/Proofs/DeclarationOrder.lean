import Mathlib.Data.List.Nodup
import Provisioning.Proofs.Placeholders

/-!
# Derived attributes in the order of their declaration

A derived attribute is computed with the variables of the holder cut off before it
(`derived_in_order`): the identity fields, the plain attributes and the derived ones that come
earlier. So what is declared later does not matter to it, and a reference to itself or to a later
one finds what the name stands for without any derived attribute.
-/

namespace Provisioning

namespace Holder

variable {h : Holder} {name : String}

def derivedNames (h : Holder) : List String :=
  h.attributes.derived.map fun a => a.schema.name

/-- The holder with other derived attributes. -/
def withDerived (h : Holder) (derived : List DerivedAttribute) : Holder :=
  { h with attributes := { h.attributes with derived := derived } }

/-- The holder with those of its derived attributes that come before a place. -/
def upTo (h : Holder) (k : Nat) : Holder :=
  h.withDerived (h.attributes.derived.take k)

/-- What a name stands for without derived attributes: the last plain attribute with the name, or
the identity field. -/
def plainText? (h : Holder) (name : String) : Option String :=
  ((h.attributes.plain.reverse.find? fun a => a.schema.name == name).map joinedText).or
    (h.identity? name)

theorem lookup_plainVariables : h.plainVariables.lookup name = h.plainText? name := by
  have hfold : h.plainVariables =
      (h.attributes.plain.map fun a => (a.schema.name, joinedText a)).foldl
        (fun table entry => Keyed.put entry.1 entry.2 table) h.identityVariables := by
    rw [List.foldl_map]
    rfl
  rw [hfold, Keyed.lookup_foldl_put, ← List.map_reverse, Keyed.lookup_map, lookup_identityVariables,
    plainText?]

theorem bindings_withDerived {derived : List DerivedAttribute} :
    (h.withDerived derived).bindings = derived.foldl addDerived h.plainVariables :=
  rfl

/-- Derived attributes leave the variables of all other names alone. -/
theorem lookup_foldl_addDerived_of_not_mem : ∀ {derived : List DerivedAttribute} {vars : Variables},
    name ∉ derived.map (fun a => a.schema.name) →
      (derived.foldl addDerived vars).lookup name = vars.lookup name
  | [], _, _ => rfl
  | a :: rest, vars, hn => by
    obtain ⟨ha, hrest⟩ := not_or.1 (List.mem_cons.not.1 hn)
    rw [List.foldl_cons, lookup_foldl_addDerived_of_not_mem hrest, addDerived, Keyed.lookup_put,
      if_neg ha]

/-- A derived attribute whose name does not come up again has the value that it got in its turn. -/
theorem lookup_foldl_addDerived {before after : List DerivedAttribute} {d : DerivedAttribute}
    {vars : Variables} (hd : d.schema.name ∉ after.map fun a => a.schema.name) :
    ((before ++ d :: after).foldl addDerived vars).lookup d.schema.name =
      some (Template.render d.schema.expression (before.foldl addDerived vars)) := by
  rw [List.foldl_append, List.foldl_cons, lookup_foldl_addDerived_of_not_mem hd, addDerived,
    Keyed.lookup_put, if_pos rfl]

section Places

variable {k : Nat} {derived : List DerivedAttribute} {d : DerivedAttribute}

theorem mem_take_derivedNames {j : Nat} (hj : j < k) (hd : h.attributes.derived[j]? = some d) :
    d.schema.name ∈ h.derivedNames.take k := by
  rw [derivedNames, ← List.map_take]
  exact List.mem_map_of_mem (List.mem_of_getElem? ((List.getElem?_take_of_lt hj).trans hd))

theorem mem_drop_derivedNames {j : Nat} (hj : k ≤ j) (hd : h.attributes.derived[j]? = some d) :
    d.schema.name ∈ h.derivedNames.drop k := by
  obtain ⟨i, rfl⟩ := Nat.exists_eq_add_of_le hj
  rw [derivedNames, ← List.map_drop]
  exact List.mem_map_of_mem (List.mem_of_getElem? (List.getElem?_drop.trans hd))

/-- A name that is not declared from a place on has the variable that it had there. -/
theorem lookup_upTo (hn : name ∉ h.derivedNames.drop k) :
    (h.upTo k).bindings.lookup name = h.bindings.lookup name := by
  have hall : h.bindings =
      (h.attributes.derived.drop k).foldl addDerived (h.upTo k).bindings := by
    rw [upTo, bindings_withDerived, ← List.foldl_append, List.take_append_drop]
    rfl
  rw [derivedNames, ← List.map_drop] at hn
  rw [hall, lookup_foldl_addDerived_of_not_mem hn]

/-- A name that is not declared before a place stands there for what it stands for without derived
attributes. -/
theorem lookup_upTo_of_not_mem (hn : name ∉ h.derivedNames.take k) :
    (h.upTo k).bindings.lookup name = h.plainText? name := by
  rw [derivedNames, ← List.map_take] at hn
  rw [upTo, bindings_withDerived, lookup_foldl_addDerived_of_not_mem hn, lookup_plainVariables]

theorem lookup_bindings_of_getElem? (hd : h.attributes.derived[k]? = some d)
    (hn : d.schema.name ∉ h.derivedNames.drop (k + 1)) :
    h.bindings.lookup d.schema.name =
      some (Template.render d.schema.expression (h.upTo k).bindings) := by
  obtain ⟨hk, rfl⟩ := List.getElem?_eq_some_iff.1 hd
  have hall : h.bindings = (h.withDerived (h.attributes.derived.take k ++
      h.attributes.derived[k] :: h.attributes.derived.drop (k + 1))).bindings := by
    rw [← List.drop_eq_getElem_cons hk, List.take_append_drop]
    rfl
  rw [derivedNames, ← List.map_drop] at hn
  rw [hall, bindings_withDerived, lookup_foldl_addDerived hn, upTo, bindings_withDerived]

theorem derivedValue?_of_mem (hd : d ∈ h.attributes.derived) :
    h.derivedValue? d.schema.name =
      Text.nonBlank? ((h.bindings.lookup d.schema.name).getD "") :=
  derivedValue?_eq (List.find?_isSome.2 ⟨d, hd, beq_iff_eq.2 rfl⟩)

/-- What is declared after a place does not matter to the derived attributes up to there, as long as
it does not take their names. -/
theorem derivedValue?_withDerived
    (htake : derived.take (k + 1) = h.attributes.derived.take (k + 1))
    (hn : (h.derivedNames.take (k + 1)).Disjoint (h.derivedNames.drop (k + 1)))
    (hn' : (h.derivedNames.take (k + 1)).Disjoint
      ((h.withDerived derived).derivedNames.drop (k + 1)))
    {j : Nat} (hj : j ≤ k) (hd : h.attributes.derived[j]? = some d) :
    (h.withDerived derived).derivedValue? d.schema.name = h.derivedValue? d.schema.name := by
  have hmem : d.schema.name ∈ h.derivedNames.take (k + 1) :=
    mem_take_derivedNames (Nat.lt_succ_of_le hj) hd
  have hd' : derived[j]? = some d := by
    rw [← List.getElem?_take_of_lt (Nat.lt_succ_of_le hj), htake,
      List.getElem?_take_of_lt (Nat.lt_succ_of_le hj), hd]
  have hupTo : (h.withDerived derived).upTo (k + 1) = h.upTo (k + 1) :=
    congrArg h.withDerived htake
  rw [derivedValue?_of_mem (List.mem_of_getElem? hd),
    derivedValue?_of_mem (h := h.withDerived derived) (List.mem_of_getElem? hd'),
    ← lookup_upTo (hn hmem), ← lookup_upTo (hn' hmem), hupTo]

end Places

/-- Of a holder whose derived attributes all have names of their own, each is rendered with the
variables of the holder cut off before it. These are the derived attributes declared earlier, with
their values, and for every other name the plain attribute or the identity field; so a reference to
the attribute itself or to a later one finds no more than those. What is declared after it may be
replaced by anything that leaves the names up to there alone, and no value up to there changes. -/
theorem derived_in_order (h : Holder) (hn : h.derivedNames.Nodup) (k : Nat) (d : DerivedAttribute)
    (hd : h.attributes.derived[k]? = some d) :
    let before := (h.upTo k).bindings
    h.bindings.lookup d.schema.name = some (Template.render d.schema.expression before) ∧
      h.derivedValue? d.schema.name =
        Text.nonBlank? (Template.render d.schema.expression before) ∧
      (∀ name, before.lookup name =
        if name ∈ h.derivedNames.take k then h.bindings.lookup name else h.plainText? name) ∧
      (∀ j e, k ≤ j → h.attributes.derived[j]? = some e →
        Template.Piece.text before (.placeholder e.schema.name) =
          (h.plainText? e.schema.name).getD "") ∧
      ∀ derived, derived.take (k + 1) = h.attributes.derived.take (k + 1) →
        (∀ name ∈ (h.withDerived derived).derivedNames.drop (k + 1),
          name ∉ h.derivedNames.take (k + 1)) →
        ∀ j e, j ≤ k → h.attributes.derived[j]? = some e →
          (h.withDerived derived).derivedValue? e.schema.name =
            h.derivedValue? e.schema.name := by
  intro before
  have hapart : ∀ i, (h.derivedNames.take i).Disjoint (h.derivedNames.drop i) :=
    fun i => List.disjoint_take_drop hn (Nat.le_refl i)
  have hvalue : h.bindings.lookup d.schema.name =
      some (Template.render d.schema.expression before) :=
    lookup_bindings_of_getElem? hd
      (hapart (k + 1) (mem_take_derivedNames (Nat.lt_succ_self k) hd))
  refine ⟨hvalue, ?_, fun name => ?_, fun j e hj he => ?_, fun derived htake hn' j e hj he => ?_⟩
  · rw [derivedValue?_of_mem (List.mem_of_getElem? hd), hvalue, Option.getD_some]
  · split_ifs with hname
    · exact lookup_upTo (hapart k hname)
    · exact lookup_upTo_of_not_mem hname
  · have hname : e.schema.name ∉ h.derivedNames.take k :=
      fun hmem => hapart k hmem (mem_drop_derivedNames hj he)
    rw [Template.Piece.text, lookup_upTo_of_not_mem hname]
  · exact derivedValue?_withDerived htake (hapart (k + 1))
      (fun name hname hlater => hn' name hlater hname) hj he

/-- A user whose display name is put together from her name, which refers to itself, to a title
that is declared later, and to a plain attribute of its own name. -/
def titled : Holder where
  kind := .user
  key := ⟨7⟩
  label := "ann"
  attributes := ⟨[.string "cn" "Ann"],
    [⟨⟨"cn", "$\x7bcn\x7d$\x7btitle\x7d Lee"⟩⟩, ⟨⟨"display", "$\x7bcn\x7d ($\x7busername\x7d)"⟩⟩,
      ⟨⟨"title", "Dr $\x7bdisplay\x7d"⟩⟩], []⟩

theorem derived_in_order_titled : titled.derivedNames.Nodup ∧
    titled.bindings.lookup "display" = some "Ann Lee (ann)" ∧
    titled.derivedValue? "title" = some "Dr Ann Lee (ann)" ∧
    (titled.withDerived (titled.attributes.derived.take 2)).derivedValue? "cn" =
      some "Ann Lee" := by
  have hn : titled.derivedNames.Nodup := by decide
  obtain ⟨hdisplay, -, -, -, hlater⟩ := derived_in_order titled hn 1 _ rfl
  obtain ⟨-, htitle, -⟩ := derived_in_order titled hn 2 _ rfl
  refine ⟨hn, hdisplay.trans ?_, htitle.trans ?_, (hlater _ ?_ ?_ 0 _ (by decide) rfl).trans ?_⟩
  all_goals decide

end Holder

end Provisioning
