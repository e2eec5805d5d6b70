import Provisioning.Proofs.Endings
import Provisioning.Proofs.Holders
import Provisioning.Proofs.MappingOrder
import Provisioning.Proofs.Retry
import Provisioning.Task.Building

/-!
# Mandatory values

What a mapping says about mandatory values travels a long way: the items that lack one are listed
while the mapping is resolved, the lists become two markers among the attributes of the task, and
the execution that is to create the object reads the markers again. All of it comes to this: a new
object is refused exactly if an item lacks a mandatory value, and the refusal names the items, those
that are absent first (`execute_built`).
-/

namespace Provisioning

open Program

/-- Whether a holder has an attribute, be it without a value. -/
def Holder.hasAttribute (h : Holder) (name : String) : AttributeSort → Bool
  | .plain => (h.plain? name).isSome
  | .derived => (h.derived? name).isSome
  | .virtual => (h.virtual? name).isSome

/-- No item of the mapping is sent as a marker. -/
def Mapping.SparesMarkers (m : Mapping) : Prop :=
  ∀ item ∈ m.items, item.externalName ≠ missingMarker ∧ item.externalName ≠ emptyMarker

instance (m : Mapping) : Decidable m.SparesMarkers :=
  inferInstanceAs (Decidable (∀ item ∈ m.items, _))

namespace Resolver

variable {resolver : Resolver} {request : ResolutionRequest} {draws : Draws} {item : MappingItem}
  {items : List MappingItem} {mapping : Mapping} {c : Contribution}

/-- Whether an item that is not left out has no value where there must be one. -/
def lacks (resolver : Resolver) (request : ResolutionRequest) (draws : Draws)
    (item : MappingItem) : Bool :=
  (resolver.given request draws item).any fun c =>
    c.values.isEmpty && request.subject.holder.satisfies item.mandatoryCondition

/-- Whether there is nothing for an item to read: no password for one that gives it, and for the
others no holder with the attribute or the field. -/
def isAbsent (resolver : Resolver) (request : ResolutionRequest) (draws : Draws)
    (item : MappingItem) : Bool :=
  if item.givesPassword then (resolver.password request draws).toOption == some none
  else match item.internalKind with
    | .attributeOf owner sort =>
      !(request.subject.related owner).any fun h => h.hasAttribute item.internalName sort
    | kind => (identityTexts request.subject kind).isEmpty

theorem present_of_virtualContribution {name : String} : ∀ {holders : List Holder}
    {sum : Contribution}, virtualContribution request name sum holders = .ok (some c) →
      c.present = (sum.present || holders.any fun h => h.hasAttribute name .virtual)
  | [], sum, h => by
    obtain rfl := Option.some.inj (Except.ok.inj h)
    simp
  | h :: rest, sum, hc => by
    rw [virtualContribution] at hc
    rcases ha : h.virtual? name with _ | a <;> rw [ha] at hc
    · simp [present_of_virtualContribution hc, Holder.hasAttribute, ha]
    · simp only at hc
      split_ifs at hc
      · cases hc
      rcases hv : virtualValues request h name a with fault | values <;> rw [hv] at hc
      · cases hc
      · simp [present_of_virtualContribution hc, Holder.hasAttribute, ha]

theorem present_of_contribution (hp : item.givesPassword = false)
    (h : contribution request item = .ok (some c)) :
    c.present = !resolver.isAbsent request draws item := by
  rw [isAbsent, hp, if_neg Bool.false_ne_true]
  unfold contribution at h
  cases hk : item.internalKind with
  | attributeOf owner sort =>
    rw [hk] at h
    cases sort with
    | plain =>
      obtain rfl := Option.some.inj (Except.ok.inj h)
      rw [Bool.not_not, Bool.eq_iff_iff]
      simp [plainContribution, Holder.hasAttribute, InternalKind.owner, Option.isSome_iff_ne_none]
    | derived =>
      obtain rfl := Option.some.inj (Except.ok.inj h)
      simp [derivedContribution, Holder.hasAttribute, InternalKind.owner]
    | virtual =>
      rw [present_of_virtualContribution h, Bool.false_or, Bool.not_not]
      rfl
  | password =>
    rw [hk] at h
    simp at h
  | idOf _ | username | roleName | roleOwner =>
    rw [hk] at h
    obtain rfl := Option.some.inj (Except.ok.inj h)
    rfl

theorem present_of_given (h : resolver.given request draws item = some c) :
    c.present = !resolver.isAbsent request draws item := by
  have hc : resolver.itemContribution request draws item = .ok (some c) := by
    unfold given at h
    split at h
    · rename_i hc
      rw [hc, h]
    · cases h
  unfold itemContribution at hc
  by_cases hp : item.givesPassword
  · rw [if_pos hp, passwordContribution] at hc
    rw [isAbsent, if_pos hp]
    rcases hpassword : resolver.password request draws with fault | _ | clear <;>
      rw [hpassword] at hc
    · cases hc
    · have hsome := Except.ok.inj hc
      split_ifs at hsome
      obtain rfl := Option.some.inj hsome
      rfl
    · obtain rfl := Option.some.inj (Except.ok.inj hc)
      rfl
  · rw [if_neg hp] at hc
    exact present_of_contribution (by simpa using hp) hc

/-- The items listed as present or not are those that lack a value, in order. -/
theorem filterMap_listed? {present : Bool} :
    items.filterMap (Draft.listed? request.subject.holder (resolver.given request draws) present) =
      ((items.filter (resolver.lacks request draws)).filter fun item =>
        resolver.isAbsent request draws item != present).map MappingItem.externalName := by
  induction items with
  | nil => rfl
  | cons item items ih =>
    rw [List.filterMap_cons, ih, Draft.listed?, List.filter_cons, lacks]
    rcases hc : resolver.given request draws item with _ | c
    · rfl
    · have hpresent := present_of_given hc
      simp only [Option.any_some, hpresent]
      by_cases hl : (c.values.isEmpty && request.subject.holder.satisfies item.mandatoryCondition)
      · rcases ha : resolver.isAbsent request draws item <;> rcases present <;> simp [hl, ha]
      · simp [hl]

theorem eq_of_draft {d : Draft} (h : resolver.draft request draws items = .ok d) :
    d = Draft.start.addAll request.subject.holder (resolver.given request draws) items := by
  by_cases hgiven : ∀ item ∈ items, resolver.isGiven request draws item
  · rw [draft_ok hgiven] at h
    exact (Except.ok.inj h).symm
  · simp only [not_forall, exists_prop] at hgiven
    obtain ⟨fault, hd⟩ := draft_error hgiven
    rw [hd] at h
    cases h

theorem eq_of_mappingFor {m : Mapping}
    (hm : request.resource.mapping? request.subject.kind = some mapping)
    (h : mappingFor request = .ok m) : m = mapping := by
  rw [mappingFor, hm] at h
  simp only at h
  split at h
  · cases h
  · exact (Except.ok.inj h).symm

theorem eq_of_resolve {r : Resolution}
    (hm : request.resource.mapping? request.subject.kind = some mapping)
    (h : resolver.resolve request draws = .ok r) :
    r = finish request mapping (Draft.start.addAll request.subject.holder
      (resolver.given request draws) mapping.propagationItems) := by
  obtain ⟨m, hmf, hdraft⟩ := bind_eq_ok.1 h
  obtain rfl := eq_of_mappingFor hm hmf
  obtain ⟨d, hd, hfinish⟩ := bind_eq_ok.1 hdraft
  rw [← eq_of_draft hd]
  exact (Except.ok.inj hfinish).symm

section Markers

variable {s : AttributeSet} {name x : String} {names : List String}

theorem get?_setIfAny_of_ne {value : Option String} (h : x ≠ name) :
    (setIfAny name value s).get? x = s.get? x := by
  rcases value with _ | v
  · rfl
  · rw [setIfAny, AttributeSet.get?_set, if_neg h]

theorem get?_listIfAny_of_ne (h : x ≠ name) : (listIfAny name names s).get? x = s.get? x := by
  unfold listIfAny
  split_ifs
  · rfl
  · rw [AttributeSet.get?_set, if_neg h]

theorem getStrings?_listIfAny (h : s.get? name = none) :
    ((listIfAny name names s).getStrings? name).getD [] = names := by
  rw [AttributeSet.getStrings?, listIfAny]
  rcases names with _ | ⟨n, ns⟩
  · simp [h]
  · simp [AttributeSet.get?_set, AttributeValue.strings, AttributeValue.asStrings,
      AttributeValue.asString?, List.filterMap_map, Function.comp_def]

variable {d : Draft}

/-- Account id and name, which come before the markers, are sent under names of their own. -/
theorem exists_attributes_finish (request : ResolutionRequest) (mapping : Mapping) (d : Draft) :
    ∃ s : AttributeSet, (finish request mapping d).attributes =
        listIfAny emptyMarker d.empty (listIfAny missingMarker d.missing s) ∧
      ∀ x, x ≠ nameAttribute → (∀ item ∈ mapping.items, x ≠ item.externalName) →
        s.get? x = d.attributes.get? x := by
  refine ⟨_, rfl, fun x hname hitem => ?_⟩
  rw [get?_setIfAny_of_ne hname]
  rcases ha : accountIdAttribute? mapping with _ | external
  · rfl
  · obtain ⟨item, hfind, hexternal⟩ := Option.bind_eq_some_iff.1 ha
    split_ifs at hexternal
    obtain rfl := Option.some.inj hexternal
    exact get?_setIfAny_of_ne (hitem item (List.mem_of_find?_eq_some hfind))

/-- Where no item is sent as a marker the two markers of a resolution are the lists of its draft. -/
theorem getStrings?_finish (request : ResolutionRequest) (hm : mapping.SparesMarkers)
    (hmissing : d.attributes.get? missingMarker = none)
    (hempty : d.attributes.get? emptyMarker = none) :
    ((finish request mapping d).attributes.getStrings? missingMarker).getD [] = d.missing ∧
      ((finish request mapping d).attributes.getStrings? emptyMarker).getD [] = d.empty := by
  obtain ⟨s, hs, hfree⟩ := exists_attributes_finish request mapping d
  rw [← hfree _ (by decide) fun item hi => ((hm item hi).1).symm] at hmissing
  rw [← hfree _ (by decide) fun item hi => ((hm item hi).2).symm] at hempty
  rw [hs]
  constructor
  · rw [AttributeSet.getStrings?, get?_listIfAny_of_ne (by decide)]
    exact getStrings?_listIfAny hmissing
  · refine getStrings?_listIfAny ?_
    rw [get?_listIfAny_of_ne (by decide), hempty]

/-- Apart from the password's an attribute has all shares together. -/
theorem Draft.get?_addAll_shared {holder : Holder} {give : Giving} (hx : x ≠ passwordAttribute) :
    (start.addAll holder give items).attributes.get? x =
      AttributeValue.shared (items.filterMap (share? x give)) := by
  rw [get?_addAll, ← List.nil_append (items.filterMap _), ← foldl_valueAfter hx]
  rfl

theorem Draft.get?_addAll_free {holder : Holder} {give : Giving} (hx : x ≠ passwordAttribute)
    (h : ∀ item ∈ items, x ≠ item.externalName) :
    (start.addAll holder give items).attributes.get? x = none := by
  have hnone : items.filterMap (share? x give) = [] :=
    List.filterMap_eq_nil_iff.2 fun item hi => by simp [share?, h item hi]
  rw [get?_addAll_shared hx, hnone]
  rfl

/-- The names in the markers of a task that was built are those of the items that lack a value, the
absent ones first. -/
theorem withoutValue_of_ofSubject {id : TaskId} {subject : Subject} {resource : Resource}
    {r : TaskRequest} {t : Task} (hm : resource.mapping? subject.kind = some mapping)
    (hmarkers : mapping.SparesMarkers)
    (ht : Task.ofSubject resolver id draws subject resource r = .ok t) :
    let request : ResolutionRequest := ⟨subject, resource, r.operation, r.password, r.changes⟩
    let lacking := mapping.propagationItems.filter (resolver.lacks request draws)
    t.operation = r.operation ∧ t.withoutValue =
      (lacking.filter (resolver.isAbsent request draws) ++
        lacking.filter fun item => !resolver.isAbsent request draws item).map
          MappingItem.externalName := by
  intro request lacking
  obtain ⟨resolution, hr, hof⟩ := bind_eq_ok.1 ht
  obtain rfl := Except.ok.inj hof
  obtain rfl := eq_of_resolve hm hr
  refine ⟨rfl, ?_⟩
  have hfree {x : String} (hx : x ≠ passwordAttribute)
      (h : ∀ item ∈ mapping.items, item.externalName ≠ x) :
      (Draft.start.addAll request.subject.holder (resolver.given request draws)
        mapping.propagationItems).attributes.get? x = none :=
    Draft.get?_addAll_free hx fun item hi => (h item (List.mem_filter.1 hi).1).symm
  obtain ⟨hmissing, hempty⟩ := getStrings?_finish request hmarkers
    (hfree (by decide) fun item hi => (hmarkers item hi).1)
    (hfree (by decide) fun item hi => (hmarkers item hi).2)
  rw [Task.withoutValue]
  refine (congrArg₂ _ hmissing hempty).trans ?_
  rw [Draft.missing_addAll, Draft.empty_addAll, filterMap_listed?, filterMap_listed?,
    List.map_append]
  simp [Draft.start, lacking]

end Markers

end Resolver

section Building

variable {hasSource : Bool} {subject subject' : Subject} {resource : Resource}
  {asked : List (Exchange VirtualRequest VirtualRequest.Answer)} {result : Except Fault Unit}

theorem kind_setVirtual {key : VirtualKey} {values : Option (List String)} :
    (subject.setVirtual key values).kind = subject.kind := by
  unfold Subject.setVirtual
  rcases h : subject.changeAttributes key.kind key.holder fun as => as.setVirtual key.schema values
    with _ | s
  · rfl
  · exact Subject.kind_of_changeAttributes h

-- The values that are loaded need not be known: only the holders' attributes change.
theorem kind_loadAll : ∀ {keys : List VirtualKey} {subject : Subject}
    {asked : List (Exchange VirtualRequest VirtualRequest.Answer)},
    Yields (loadAll hasSource subject keys) asked (subject', result) → subject'.kind = subject.kind
  | [], subject, asked, h => by
    rw [(Prod.mk.inj (yields_pure.1 h).2).1]
  | key :: keys, subject, asked, h => by
    obtain ⟨_, _, fetched, rfl, -, hrest⟩ := yields_bind.1 h
    rcases fetched with fault | ⟨⟩
    · rw [(Prod.mk.inj (yields_pure.1 hrest).2).1]
    · obtain ⟨values, _, rfl, hloaded⟩ := yields_request_bind.1 hrest
      exact (kind_loadAll hloaded).trans kind_setVirtual

theorem kind_refresh (h : Yields (refresh hasSource subject resource) asked (subject', result)) :
    subject'.kind = subject.kind := by
  obtain ⟨_, _, _, rfl, -, hloaded⟩ := yields_bind.1 h
  exact kind_loadAll hloaded

end Building

namespace Task

/-- A task that is built is that of the subject as the refresh leaves it, which is of the same kind.
-/
theorem ofSubject_of_build {σ : Type} {ports : (r : VirtualRequest) → σ → r.Answer × σ} {state : σ}
    {resolver : Resolver} {hasSource : Bool} {id : TaskId} {draws : Draws} {subject : Subject}
    {resource : Resource} {request : TaskRequest} {t : Task}
    (h : ((build resolver hasSource id draws subject resource request).run ports state).1 =
      .ok t) :
    let fresh := ((refresh hasSource subject resource).run ports state).1.1
    fresh.kind = subject.kind ∧ ofSubject resolver id draws fresh resource request = .ok t := by
  intro fresh
  obtain ⟨asked, hy⟩ := yields_run ports (refresh hasSource subject resource) state
  refine ⟨kind_refresh hy, ?_⟩
  rw [build, run_bind] at h
  rcases hr : ((refresh hasSource subject resource).run ports state).1 with ⟨s, fault | ⟨⟩⟩ <;>
    rw [hr] at h
  · cases h
  · rw [show fresh = s from congrArg Prod.fst hr]
    exact h

/-- Unless it is stopped, the execution of a task that was built to create an absent object is
refused exactly if an item of the mapping lacks a mandatory value. The refusal names these items in
the order of the mapping, those that are absent before those that are held without a value. No other
task is refused, whatever its markers are. -/
theorem execute_built {σ : Type} (ports : (r : VirtualRequest) → σ → r.Answer × σ) (state : σ)
    (world : Respondent Request Request.Answer) (settings : Settings) (resolver : Resolver)
    (hasSource : Bool) (id : TaskId) (draws : Draws) (subject : Subject) (resource : Resource)
    (request : TaskRequest) {mapping : Mapping} {t : Task}
    (hm : resource.mapping? subject.kind = some mapping) (hmarkers : mapping.SparesMarkers)
    (hop : request.operation = .create)
    (hbuild : ((build resolver hasSource id draws subject resource request).run ports state).1 =
      .ok t)
    (hs : ExecutionLog.stopped ((t.execute settings).trace world).2 = false)
    (ho : ExecutionLog.objectBefore ((t.execute settings).trace world).2 = none) :
    let r := ((t.execute settings).trace world).1
    let fresh := ((refresh hasSource subject resource).run ports state).1.1
    let asked : ResolutionRequest :=
      ⟨fresh, resource, request.operation, request.password, request.changes⟩
    let lacking := mapping.propagationItems.filter (resolver.lacks asked draws)
    ((∃ names, r = .error (.validation names)) ↔
        ∃ item ∈ mapping.propagationItems, resolver.lacks asked draws item) ∧
      (∀ names, r = .error (.validation names) →
        names = (lacking.filter (resolver.isAbsent asked draws) ++
          lacking.filter fun item => !resolver.isAbsent asked draws item).map
            MappingItem.externalName) ∧
      ∀ (t' : Task) (settings' : Settings) (world' : Respondent Request Request.Answer),
        t'.operation ≠ .create →
          ∃ execution, ((t'.execute settings').trace world').1 = .ok execution := by
  intro r fresh asked lacking
  have hy : Yields (t.execute settings) ((t.execute settings).trace world).2 r :=
    yields_trace world _
  obtain ⟨hkind, ht⟩ := ofSubject_of_build hbuild
  obtain ⟨htop, hnames⟩ := Resolver.withoutValue_of_ofSubject (hkind ▸ hm) hmarkers ht
  -- The absent items and the others are together all that lack a value.
  have hnil : t.withoutValue = [] ↔ lacking = [] := by
    have hperm := List.filter_append_perm (resolver.isAbsent asked draws) lacking
    rw [hnames, List.map_eq_nil_iff, ← List.length_eq_zero_iff, hperm.length_eq,
      List.length_eq_zero_iff]
  have herror : ∀ fault, r = .error fault → fault = .validation t.withoutValue :=
    fun fault hr => (execute_error (hr ▸ hy)).1
  refine ⟨?_, fun names hr => ?_, fun t' settings' world' hne => ?_⟩
  · calc
      (∃ names, r = .error (.validation names)) ↔ ∃ fault, r = .error fault :=
        ⟨fun ⟨_, hr⟩ => ⟨_, hr⟩, fun ⟨_, hr⟩ => ⟨_, herror _ hr ▸ hr⟩⟩
      _ ↔ t.withoutValue ≠ [] := by
        rw [execute_error_iff hy]
        simp [MustRefuse, hs, ho, htop, hop]
      _ ↔ ∃ item ∈ mapping.propagationItems, resolver.lacks asked draws item := by
        rw [ne_eq, hnil, List.filter_eq_nil_iff]
        simp
  · rw [← hnames]
    exact Fault.validation.inj (herror _ hr)
  · rcases hr : ((t'.execute settings').trace world').1 with fault | execution
    · have hlacking := ((execute_error_iff (yields_trace world' _)).1 ⟨fault, hr⟩).2
      exact absurd hlacking.1 hne
    · exact ⟨execution, rfl⟩

/-- A user who has a fax without a number, and no mail at all. -/
def faxless : Subject :=
  .user { User.bare ⟨7⟩ "ann" with attributes := ⟨[⟨.single "fax" .string, []⟩], [], []⟩ }

/-- A resource on which users must have a fax and a mail. -/
def faxDirectory : Resource :=
  { Resource.bare "ldap" "directory" with
    userMapping := some ⟨"person", [
      { MappingItem.simple "username" .username "cn" with isAccountId := true },
      { MappingItem.simple "fax" (.attributeOf .user .plain) "fax" with
        mandatoryCondition := "true" },
      { MappingItem.simple "mail" (.attributeOf .user .plain) "mail" with
        mandatoryCondition := "true" }]⟩ }

/-- The mail, which is absent, is named before the fax, which only has no value. -/
theorem execute_built_faxless :
    let ports := VirtualCache.answer fun _ => .ok none
    ∃ t, ((build ⟨0, none, none⟩ false ⟨0⟩ (.ofSeed 0) faxless faxDirectory
        ⟨.create, none, .none, none⟩).run ports .empty).1 = .ok t ∧
      ((t.execute .default).trace (oneObject (named "old") (named "old"))).1 =
        .error (.validation ["mail", "fax"]) := by
  intro ports
  refine ⟨_, rfl, ?_⟩
  obtain ⟨hrefused, hnames, -⟩ := execute_built ports .empty
    (oneObject (named "old") (named "old")) .default ⟨0, none, none⟩ false ⟨0⟩ (.ofSeed 0) faxless
    faxDirectory ⟨.create, none, .none, none⟩ rfl (by decide) rfl rfl rfl rfl
  obtain ⟨names, hr⟩ := hrefused.2 ⟨_, List.mem_of_getElem? (i := 1) rfl, rfl⟩
  rw [hr, hnames names hr]
  rfl

end Task

end Provisioning
