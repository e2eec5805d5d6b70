import Provisioning.Proofs.Tables
import Provisioning.Template

/-!
# What stands for a name in a template

The variables of a holder are put one over the other: its identity fields, then its plain
attributes, then its derived attributes. So of several attributes with one name it is the last that
stands for the name in a template, a derived one before any plain one (`lookup_bindings`), while a
look-up of the attribute finds the first of its sort. The two come to the same exactly where the
first and the last attribute with the name have the same text (`text_placeholder_iff`).
-/

namespace Provisioning

namespace Keyed

variable {κ α β : Type} [DecidableEq κ] {x : κ} {entries table : List (κ × α)}

/-- Of several values that are put under a key the last one stays. -/
theorem lookup_foldl_put : ∀ {entries table : List (κ × α)},
    (entries.foldl (fun table entry => put entry.1 entry.2 table) table).lookup x =
      (entries.reverse.lookup x).or (table.lookup x)
  | [], _ => rfl
  | (key, value) :: rest, table => by
    rw [List.foldl_cons, lookup_foldl_put, lookup_put, List.reverse_cons, List.lookup_append,
      lookup_cons, Option.or_assoc]
    split_ifs <;> rfl

theorem lookup_map {key : β → κ} {value : β → α} : ∀ {items : List β},
    (items.map fun item => (key item, value item)).lookup x =
      (items.find? fun item => key item == x).map value
  | [] => rfl
  | item :: items => by
    rw [List.map_cons, lookup_cons, lookup_map, List.find?_cons]
    by_cases h : key item = x
    · rw [if_pos h.symm, beq_iff_eq.2 h]
      rfl
    · rw [if_neg (Ne.symm h), beq_eq_false_iff_ne.2 h]

/-- Looking up in what a partial table has for some keys. -/
theorem lookup_filterMap {f : κ → Option α} : ∀ {names : List κ},
    (names.filterMap fun name => (f name).map fun value => (name, value)).lookup x =
      if x ∈ names then f x else none
  | [] => rfl
  | name :: names => by
    rw [List.filterMap_cons]
    by_cases h : x = name
    · subst h
      rcases hx : f x with _ | value
      · simp [lookup_filterMap, hx]
      · simp
    · rcases f name with _ | value
      · simp [lookup_filterMap, h]
      · simp [lookup_cons, lookup_filterMap, h]

theorem lookup_isNone_reverse :
    entries.reverse.lookup x = none ↔ entries.lookup x = none := by
  rw [List.lookup_eq_none_iff, List.lookup_eq_none_iff]
  simp only [List.mem_reverse]

/-- Where each key stands once, it does not matter from which end it is looked up. -/
theorem lookup_reverse (h : (keys entries).Nodup) :
    entries.reverse.lookup x = entries.lookup x := by
  have hreverse : (keys entries.reverse).Nodup :=
    ((List.reverse_perm entries).map Prod.fst).nodup_iff.2 h
  refine Option.ext fun value => ⟨fun hv => ?_, fun hv => ?_⟩
  · exact lookup_of_mem h (List.mem_reverse.1 (mem_of_lookup hv))
  · exact lookup_of_mem hreverse (List.mem_reverse.2 (mem_of_lookup hv))

end Keyed

namespace Holder

variable {h : Holder} {name : String}

/-- The text of a plain attribute in a template. -/
def joinedText (a : PlainAttribute) : String :=
  ",".intercalate a.texts

/-- The variables that come before the derived attributes. -/
def plainVariables (h : Holder) : Variables :=
  h.attributes.plain.foldl addPlain h.identityVariables

/-- The names of derived attributes with their texts, each computed with what comes before it. -/
def computed (vars : Variables) : List DerivedAttribute → List (String × String)
  | [] => []
  | a :: rest =>
    (a.schema.name, Template.render a.schema.expression vars) :: computed (addDerived vars a) rest

/-- The names of all attributes that templates see with their texts, in order. -/
def attributeTexts (h : Holder) : List (String × String) :=
  (h.attributes.plain.map fun a => (a.schema.name, joinedText a)) ++
    computed h.plainVariables h.attributes.derived

/-- The text of the attribute that is found under a name: of the plain one if there is one, else of
the derived one, computed with what comes before it, else the identity field. -/
def foundText (h : Holder) (name : String) : String :=
  match h.plain? name with
  | some a => joinedText a
  | none =>
    match h.derived? name with
    | some a =>
      let before := h.attributes.derived.takeWhile fun d => d.schema.name != name
      Template.render a.schema.expression (before.foldl addDerived h.plainVariables)
    | none => (h.identity? name).getD ""

section Bindings

theorem foldl_addDerived : ∀ {derived : List DerivedAttribute} {vars : Variables},
    derived.foldl addDerived vars =
      (computed vars derived).foldl (fun table entry => Keyed.put entry.1 entry.2 table) vars
  | [], _ => rfl
  | a :: rest, vars => by
    rw [List.foldl_cons, foldl_addDerived]
    rfl

theorem bindings_eq : h.bindings = h.attributeTexts.foldl
    (fun table entry => Keyed.put entry.1 entry.2 table) h.identityVariables := by
  rw [attributeTexts, List.foldl_append, List.foldl_map, bindings, foldl_addDerived]
  rfl

theorem lookup_identityVariables : h.identityVariables.lookup name = h.identity? name := by
  rw [identityVariables, Keyed.lookup_filterMap]
  split_ifs with hname
  · rfl
  · have hnames := hname
    simp only [identityFields, List.mem_cons, List.not_mem_nil, or_false, not_or] at hnames
    obtain ⟨husername, hlabel, hkey⟩ := hnames
    rw [identity?, if_neg hkey]
    rcases h.kind with _ | _ | _
    · exact (if_neg husername).symm
    · exact (if_neg hlabel).symm
    · exact (if_neg hlabel).symm

/-- The last attribute with a name stands for it, and without one the identity field. -/
theorem lookup_bindings : h.bindings.lookup name =
    (h.attributeTexts.reverse.lookup name).or (h.identity? name) := by
  rw [bindings_eq, Keyed.lookup_foldl_put, lookup_identityVariables]

end Bindings

section Found

theorem lookup_computed : ∀ {derived : List DerivedAttribute} {vars : Variables},
    (computed vars derived).lookup name =
      (derived.find? fun a => a.schema.name == name).map fun a =>
        Template.render a.schema.expression
          ((derived.takeWhile fun d => d.schema.name != name).foldl addDerived vars)
  | [], _ => rfl
  | a :: rest, vars => by
    rw [computed, Keyed.lookup_cons, lookup_computed, List.find?_cons, List.takeWhile_cons]
    by_cases hn : a.schema.name = name
    · simp [hn]
    · have hb : (a.schema.name == name) = false := beq_eq_false_iff_ne.2 hn
      simp [hb, hn, Ne.symm hn]

/-- What is found under a name is the first attribute with it. -/
theorem foundText_eq : h.foundText name =
    ((h.attributeTexts.lookup name).or (h.identity? name)).getD "" := by
  have hplain : (h.attributes.plain.map fun a => (a.schema.name, joinedText a)).lookup name =
      (h.plain? name).map joinedText := Keyed.lookup_map
  rw [foundText, attributeTexts, List.lookup_append, hplain, lookup_computed]
  rcases h.plain? name with _ | a
  · show _ = (Option.or (Option.or none ((h.derived? name).map _)) _).getD ""
    rcases h.derived? name with _ | d <;> rfl
  · rfl

end Found

section Placeholders

/-- The text that a template has for a name. -/
theorem text_placeholder : Template.Piece.text h.bindings (.placeholder name) =
    ((h.attributeTexts.reverse.lookup name).or (h.identity? name)).getD "" := by
  rw [Template.Piece.text, lookup_bindings]

/-- The last attribute with a name has the text of the first one, or there is none. -/
theorem text_placeholder_eq_foundText :
    Template.Piece.text h.bindings (.placeholder name) = h.foundText name ↔
      h.attributeTexts.lookup name = h.attributeTexts.reverse.lookup name := by
  rw [text_placeholder, foundText_eq]
  rcases hfirst : h.attributeTexts.lookup name with _ | first
  · rw [Keyed.lookup_isNone_reverse.2 hfirst]
    exact iff_of_true rfl rfl
  · rcases hlast : h.attributeTexts.reverse.lookup name with _ | last
    · rw [Keyed.lookup_isNone_reverse.1 hlast] at hfirst
      cases hfirst
    · exact ⟨fun ht => congrArg some (id ht.symm), fun ht => (Option.some.inj ht).symm⟩

theorem keys_computed : ∀ {derived : List DerivedAttribute} {vars : Variables},
    Keyed.keys (computed vars derived) = derived.map fun a => a.schema.name
  | [], _ => rfl
  | a :: _, _ => congrArg (a.schema.name :: ·) keys_computed

theorem keys_attributeTexts : Keyed.keys h.attributeTexts =
    (h.attributes.plain.map fun a => a.schema.name) ++
      h.attributes.derived.map fun a => a.schema.name := by
  rw [attributeTexts, Keyed.keys, List.map_append, List.map_map]
  exact congrArg (_ ++ ·) keys_computed

/-- A derived attribute has the value that stands for its name in a template. -/
theorem derivedValue?_eq (hd : (h.derived? name).isSome) : h.derivedValue? name =
    Text.nonBlank? (Template.Piece.text h.bindings (.placeholder name)) := by
  obtain ⟨d, hd⟩ := Option.isSome_iff_exists.1 hd
  have hcomputed : (computed h.plainVariables h.attributes.derived).lookup name ≠ none := by
    rw [lookup_computed, Ne, Option.map_eq_none_iff]
    exact fun hnone => Option.some_ne_none d (hd.symm.trans hnone)
  have hbound : h.bindings.lookup name ≠ none := by
    rw [lookup_bindings, Ne, Option.or_eq_none_iff, Keyed.lookup_isNone_reverse, attributeTexts,
      List.lookup_append, Option.or_eq_none_iff]
    exact fun hnone => hcomputed hnone.1.2
  obtain ⟨text, htext⟩ := Option.ne_none_iff_exists'.1 hbound
  rw [derivedValue?, hd, Template.Piece.text, htext]
  rfl

/-- What stands for a name in a template is the text of the last attribute with it, plain ones
before derived ones, or the identity field, or nothing. This is what is found under the name exactly
if the first attribute with it has the same text, and always if no two attributes share a name. An
item for a derived attribute reads what stands for it in a template. -/
theorem text_placeholder_iff (h : Holder) (name : String) :
    let text := Template.Piece.text h.bindings (.placeholder name)
    text = ((h.attributeTexts.reverse.lookup name).or (h.identity? name)).getD "" ∧
      (text = h.foundText name ↔
        h.attributeTexts.lookup name = h.attributeTexts.reverse.lookup name) ∧
      (((h.attributes.plain.map fun a => a.schema.name) ++
          h.attributes.derived.map fun a => a.schema.name).Nodup → text = h.foundText name) ∧
      ((h.derived? name).isSome → h.derivedValue? name = Text.nonBlank? text) := by
  intro text
  refine ⟨text_placeholder, text_placeholder_eq_foundText, fun hn => ?_, derivedValue?_eq⟩
  rw [← keys_attributeTexts] at hn
  exact text_placeholder_eq_foundText.2 (Keyed.lookup_reverse hn).symm

/-- A user with a mail of her own, and with one that is computed. -/
def twoMails : Holder where
  kind := .user
  key := ⟨7⟩
  label := "ann"
  attributes := ⟨[.string "mail" "ann@x.org"], [⟨⟨"mail", "ann@y.org"⟩⟩], []⟩

/-- The mail that is found is the plain one, that in a template is the derived one. -/
theorem derived_over_plain :
    (twoMails.plain? "mail").map joinedText = some "ann@x.org" ∧
      twoMails.foundText "mail" = "ann@x.org" ∧
      Template.Piece.text twoMails.bindings (.placeholder "mail") = "ann@y.org" ∧
      twoMails.evaluate? "$\x7bmail\x7d" = some "ann@y.org" := by
  decide

end Placeholders

end Holder

end Provisioning
