import Provisioning.Proofs.Evidence
import Provisioning.Proofs.Tables

/-!
# The change of an execution

An execution asks the target system for at most one change, and the replies that came before it say
which: whether there is a connector, what the read before the change gave, whether an action failed
fatally, and for a delete whether the directory still assigns the resource (`execute_writes`). The
attributes of an update are all those in which the object differs: that its name may be left out of
the comparison has no effect (`changes_eq_difference`).

These replies are to what the execution has to ask for (`Prepares`): the read, the actions of the
chain up to the first one that fails fatally, and the question to the directory. What the stages of
an execution say about all this is added up as `Evidence`.
-/

namespace Provisioning

open Program

namespace RemoteObject

variable {o : RemoteObject} {name : String} {v : AttributeValue}

/-- An object shows values like these under a name. Its name and its identifier are shown, too. -/
def Shows (o : RemoteObject) (name : String) (v : AttributeValue) : Prop :=
  ∃ there, (if name = uidAttribute then some (.string o.uid.value)
    else if name = nameAttribute then some (.string o.name) else o.attributes.get? name) =
      some there ∧ there.equivalent v

theorem holds_fullAttributes : o.fullAttributes.holds name v ↔ o.Shows name v := by
  rw [AttributeSet.holds, fullAttributes, AttributeSet.get?_set, AttributeSet.get?_set, Shows]
  generalize (if name = uidAttribute then some (AttributeValue.string o.uid.value)
    else if name = nameAttribute then some (.string o.name) else o.attributes.get? name) = there
  rcases there with _ | there <;> simp

theorem get?_fullAttributes_name (o : RemoteObject) :
    o.fullAttributes.get? nameAttribute = some (.string o.name) := by
  rw [fullAttributes, AttributeSet.get?_set, if_neg (by decide), AttributeSet.get?_set, if_pos rfl]

end RemoteObject

namespace Task

open ExecutionLog

variable {t : Task} {es : ExecutionLog}

/-- What is sent in an update is in which the object differs: a name that it has already is among
its attributes, so that leaving it out changes nothing. -/
theorem changes_eq_difference (t : Task) (o : RemoteObject) :
    t.changes o = t.wanted.difference o.fullAttributes := by
  rw [changes, AttributeSet.difference_restrictedTo, comparable]
  split_ifs with h
  · obtain ⟨v, hv, hs⟩ := Option.bind_eq_some_iff.1 h.1
    refine AttributeSet.difference_erase hv ?_
    rcases v with _ | s | _ | _ | _ | _ | _ <;> simp only [AttributeValue.asString?,
      reduceCtorEq, Option.some.injEq] at hs
    subst hs
    rw [AttributeSet.holds, o.get?_fullAttributes_name]
    simp [AttributeValue.equivalent, AttributeValue.values]
  · rfl

/-- The task wants an attribute to have these values. The markers are not meant for the resource. -/
def Wants (t : Task) (name : String) (v : AttributeValue) : Prop :=
  t.attributes.get? name = some v ∧ name ≠ missingMarker ∧ name ≠ emptyMarker

theorem get?_wanted {name : String} {v : AttributeValue} :
    t.wanted.get? name = some v ↔ t.Wants name v := by
  rw [wanted, AttributeSet.get?_erase, AttributeSet.get?_erase, Wants]
  by_cases hm : name = missingMarker <;> by_cases he : name = emptyMarker <;> simp [hm, he]

theorem get?_difference_wanted {o : RemoteObject} {name : String} {v : AttributeValue} :
    (t.wanted.difference o.fullAttributes).get? name = some v ↔ t.Wants name v ∧ ¬o.Shows name v := by
  rw [AttributeSet.get?_difference, get?_wanted, ← RemoteObject.holds_fullAttributes,
    Bool.not_eq_true]

/-- No name is listed in a marker exactly if neither marker holds a text. -/
theorem withoutValue_eq_nil : t.withoutValue = [] ↔
    ∀ marker ∈ [missingMarker, emptyMarker], ∀ v, t.attributes.get? marker = some v →
      v.asStrings = [] := by
  have hlisted (marker : String) : (t.attributes.getStrings? marker).getD [] = [] ↔
      ∀ v, t.attributes.get? marker = some v → v.asStrings = [] := by
    rw [AttributeSet.getStrings?]
    rcases t.attributes.get? marker with _ | v <;> simp
  simp [withoutValue, hlisted]

/-- The call for a change, by the object read before it and the reply of the directory. -/
def change? (t : Task) (object : Option RemoteObject)
    (reply : Option (Except StoreError (List String))) : Option Request :=
  match t.operation, object, reply with
  | .delete, some o, some reply =>
    match t.verdict o reply with
    | .ok d => t.request? d
    | .error _ => none
  | .delete, _, _ => none
  | _, object, _ => t.request? (t.converge object)

theorem change?_of_ne_delete (h : t.operation ≠ .delete) {object : Option RemoteObject}
    {reply : Option (Except StoreError (List String))} :
    t.change? object reply = t.request? (t.converge object) := by
  unfold change?
  rcases ho : t.operation
  · rfl
  · rfl
  · exact absurd ho h

theorem isWrite_of_request? {d : Decision} {r : Request} (h : t.request? d = some r) :
    r.isWrite := by
  rcases d with _ | _ | _ | _ | _ <;> simp only [request?, reduceCtorEq, Option.some.injEq] at h <;>
    subst h <;> rfl

/-- The call that reads the object before the change, if there is an account id to look for. -/
def readBeforeCall? (t : Task) : Option Request :=
  (idToRead t.accountIdBefore).map fun id => .read .before t (t.uid id) t.namesToRead

/-- The question to the directory, for an object that is to be deleted. -/
def question? (t : Task) (object : Option RemoteObject) : Option Request :=
  if t.operation = .delete ∧ object.isSome then
    some (.resourceNames t.subjectKind t.subjectKey)
  else none

theorem ofConnector_ne_validation {resource : String} {error : ConnectorError}
    (names : List String) : Fault.ofConnector resource error ≠ .validation names := by
  unfold Fault.ofConnector
  split_ifs <;> simp

/-- The read before the change is a fault exactly when it times out, and gives the object else. -/
theorem evidence_of_read {read : Except Fault (Option RemoteObject)}
    (h : Yields (t.read .before t.accountIdBefore) es read) :
    evidence es = { readsBefore := es.map Exchange.request, readBefore? := readBefore? es } ∧
      es.map Exchange.request = t.readBeforeCall?.toList ∧
      ((timedOut es = true ∧ objectBefore es = none ∧
          ∃ fault, read = .error fault ∧ ∀ names, fault ≠ .validation names) ∨
        timedOut es = false ∧ read = .ok (objectBefore es)) := by
  rw [yields_read] at h
  unfold readBeforeCall?
  rcases hid : idToRead t.accountIdBefore with _ | id <;> rw [hid] at h
  · obtain ⟨rfl, rfl⟩ := h
    exact ⟨rfl, rfl, .inr ⟨rfl, rfl⟩⟩
  · obtain ⟨reply, rfl, rfl⟩ := h
    refine ⟨rfl, rfl, ?_⟩
    rcases reply with e | o
    · rw [timedOut_of_error (e := e) rfl, readAs]
      by_cases he : e.isTimeout
      · simp [he, ofConnector_ne_validation, objectBefore, readBefore?]
      · simp [he, objectBefore, readBefore?]
    · exact .inr ⟨rfl, rfl⟩

theorem evidence_of_actedBefore {object : Option RemoteObject} {place : Nat}
    {actions : List Action} {acted : Except Fault Unit}
    (h : t.ActedBefore object place actions es acted) :
    evidence es = { failedFatally := failedFatally es, calledBefore := es } :=
  evidence_of_isActBefore fun e he => by
    obtain ⟨_, _, hcall⟩ := h.calls e he
    rw [hcall]
    rfl

/-- The directory is asked for an object that is to be deleted, and what is decided is by its reply.
-/
theorem evidence_of_decide {object : Option RemoteObject} {decided : Except Fault Decision}
    (h : Yields (t.decide object) es decided) :
    evidence es =
        { directoryReply? := directoryReply? es, questions := es.map Exchange.request } ∧
      es.map Exchange.request = (t.question? object).toList ∧
      t.change? object (directoryReply? es) = decided.toOption.bind t.request? := by
  unfold change? question?
  rcases decide_cases h with ⟨ho, rfl, rfl⟩ | ⟨ho, rfl, rfl, rfl⟩ | ⟨o, reply, ho, rfl, rfl, rfl⟩
  · refine ⟨rfl, by simp [ho], ?_⟩
    rcases hop : t.operation <;> first | exact absurd hop ho | rfl
  · rw [ho]
    exact ⟨rfl, rfl, rfl⟩
  · rw [ho]
    refine ⟨rfl, rfl, ?_⟩
    simp only [directoryReply?, List.findSome?_singleton]
    rcases t.verdict o reply with _ | _ <;> rfl

theorem evidence_of_carryOut {d : Decision} {r : Except Fault Bool}
    (h : Yields (t.carryOut d) es r) :
    evidence es = { writes := es.map Exchange.request } ∧
      es.map Exchange.request = (t.request? d).toList := by
  rcases carryOut_cases h with ⟨names, rfl, rfl, -⟩ | ⟨rfl, rfl, -⟩ | ⟨e, he, rfl, -⟩
  · exact ⟨rfl, rfl⟩
  · exact ⟨rfl, rfl⟩
  · rw [evidence_of_isWrite (isWrite_of_request? he), he]
    exact ⟨rfl, rfl⟩

theorem writes_of_carryOut {d : Decision} {r : Except Fault Bool}
    (h : Yields (t.carryOut d) es r) : writes es = (t.request? d).toList := by
  obtain ⟨hv, hcall⟩ := evidence_of_carryOut h
  exact (Evidence.mk.inj hv).1.trans hcall

/-- What is asked for before the change, where there is a connector or not. The object is read. The
actions of the chain are called in order up to the first one that fails fatally, unless the read
timed out. The directory is asked about the subject of an object to be deleted, unless an action
failed fatally. -/
structure Prepares (t : Task) (found : Bool) (actions : List Action) (es : ExecutionLog) :
    Prop where
  reads : readsBefore es = if found then t.readBeforeCall?.toList else []
  unreached : !found || timedOut es → calledBefore es = []
  inOrder : (calledBefore es).map Exchange.request <+: t.callsFrom (objectBefore es) 0 actions
  untilFatal : ∀ e ∈ (calledBefore es).dropLast, isFatal e = false
  all : (!found || timedOut es || failedFatally es) = false →
    (calledBefore es).map Exchange.request = t.callsFrom (objectBefore es) 0 actions
  questions : questions es =
    if !found || timedOut es || failedFatally es then [] else (t.question? (objectBefore es)).toList

/-- Only the read, the actions and the question count. -/
theorem Prepares.of_sameChange {found : Bool} {actions : List Action} {es' : ExecutionLog}
    (h : t.Prepares found actions es) (hs : SameChange es' es) : t.Prepares found actions es' := by
  constructor
  · rw [hs.readsBefore, h.reads]
  · rw [hs.timedOut, hs.calledBefore]
    exact h.unreached
  · rw [hs.objectBefore, hs.calledBefore]
    exact h.inOrder
  · rw [hs.calledBefore]
    exact h.untilFatal
  · rw [hs.timedOut, hs.failedFatally, hs.objectBefore, hs.calledBefore]
    exact h.all
  · rw [hs.questions, hs.timedOut, hs.failedFatally, hs.objectBefore]
    exact h.questions

theorem Prepares.of_staged {actions : List Action} {es₁ es₂ es₃ es₄ : ExecutionLog}
    (hs : Staged es₁ es₂ es₃ es₄) (hreads : es₁.map Exchange.request = t.readBeforeCall?.toList)
    (unreached : timedOut es₁ → es₂ = [])
    (inOrder : es₂.map Exchange.request <+: t.callsFrom (objectBefore es₁) 0 actions)
    (untilFatal : ∀ e ∈ es₂.dropLast, isFatal e = false)
    (all : timedOut es₁ = false → failedFatally es₂ = false →
      es₂.map Exchange.request = t.callsFrom (objectBefore es₁) 0 actions)
    (questions : es₃.map Exchange.request =
      if timedOut es₁ || failedFatally es₂ then [] else (t.question? (objectBefore es₁)).toList) :
    t.Prepares true actions (es₁ ++ (es₂ ++ (es₃ ++ es₄))) := by
  obtain ⟨-, hr, -, hb, hf, -, hc, hq⟩ := Evidence.mk.inj hs.evidence_append
  have ht := timedOut_congr hb
  have ho := objectBefore_congr hb
  constructor
  · rw [hr, hreads, if_pos rfl]
  · rw [ht, hc]
    exact unreached
  · rw [hc, ho]
    exact inOrder
  · rw [hc]
    exact untilFatal
  · rw [ht, hf, hc, ho, Bool.not_true, Bool.false_or, Bool.or_eq_false_iff]
    exact fun h => all h.1 h.2
  · rw [hq, ht, hf, ho]
    exact questions

/-- The part that may change the target system prepares the change. Then it is stopped, with a fault
that is no refusal, or comes to a decision, and unless that fails carries it out. -/
theorem propagate_stages {found : Bool} {actions : List Action} {object : Option RemoteObject}
    {r : Except Fault Bool} (h : Yields (t.propagate found actions) es (object, r)) :
    hasConnector es = false ∧ t.Prepares found actions es ∧
      es.map Exchange.request = upToChange es ∧ object = objectBefore es ∧
      (((!found || timedOut es || failedFatally es) = true ∧ writes es = [] ∧
          ∃ fault, r = .error fault ∧ ∀ names, fault ≠ .validation names) ∨
        (!found || timedOut es || failedFatally es) = false ∧ ∃ es₁ es₂ es₃ decided,
          es = es₁ ++ (es₂ ++ es₃) ∧ Yields (t.decide object) es₂ decided ∧
          directoryReply? es = directoryReply? es₂ ∧ writes es = writes es₃ ∧
          ((∃ fault, decided = .error fault ∧ es₃ = [] ∧ r = .error fault) ∨
            ∃ d, decided = .ok d ∧ Yields (t.carryOut d) es₃ r)) := by
  rcases propagate_cases h with ⟨rfl, rfl, rfl, rfl⟩ | ⟨rfl, es₁, es₂, read, rfl, hread, h⟩
  · exact ⟨rfl, ⟨rfl, fun _ => rfl, List.nil_prefix, fun e he => absurd he List.not_mem_nil,
      fun hn => by simp at hn, rfl⟩, rfl, rfl, .inl ⟨rfl, rfl, _, rfl, by simp⟩⟩
  obtain ⟨hv₁, hreads, hr⟩ := evidence_of_read hread
  rcases h with ⟨fault, rfl, rfl, rfl, rfl⟩ | ⟨rfl, es₃, es₄, acted, rfl, hacted, h⟩
  · obtain ⟨ht, ho, _, hn, hfault⟩ := hr.resolve_right fun hn => by simp at hn
    obtain rfl := Except.error.inj hn
    have hs : Staged es₁ [] [] [] := ⟨hv₁, rfl, rfl, rfl⟩
    obtain ⟨hw, -, hc, hb, -⟩ := Evidence.mk.inj hs.evidence_append
    refine ⟨hc, .of_staged hs hreads (fun _ => rfl) List.nil_prefix (fun e he => by cases he)
      (fun hn => by simp [ht] at hn) (by simp [ht]), hs.map_request, ?_,
      .inl ⟨?_, hw, _, rfl, hfault⟩⟩
    · exact ho.symm.trans (objectBefore_congr hb).symm
    · exact Bool.or_eq_true_iff.2 (.inl ((timedOut_congr hb).trans ht))
  -- The read went well, so that its reply is the object.
  obtain ⟨ht, hn⟩ := hr.resolve_left fun ⟨_, _, _, hn, _⟩ => by simp at hn
  obtain rfl := Except.ok.inj hn
  have hv₃ := evidence_of_actedBefore hacted
  rcases h with ⟨fault, rfl, rfl, rfl⟩ | ⟨rfl, es₅, es₆, decided, rfl, hdecided, h⟩
  · obtain ⟨⟨name, message, hn⟩, e, he, hfe⟩ := hacted.outcome.resolve_left fun h => by simp at h
    obtain rfl := Except.error.inj hn
    have hf : failedFatally es₃ = true := List.any_eq_true.2 ⟨e, he, hfe⟩
    have hs : Staged es₁ es₃ [] [] := ⟨hv₁, hv₃, rfl, rfl⟩
    obtain ⟨hw, -, hc, hb, hf', -⟩ := Evidence.mk.inj hs.evidence_append
    refine ⟨hc, .of_staged hs hreads (fun hn => by simp [ht] at hn) hacted.inOrder
      hacted.untilFatal (fun _ hn => by simp [hf] at hn) (by simp [hf]), hs.map_request,
      (objectBefore_congr hb).symm, .inl ⟨?_, hw, _, rfl, by simp⟩⟩
    exact Bool.or_eq_true_iff.2 (.inr (hf'.trans hf))
  obtain ⟨-, -, hnone⟩ := hacted.outcome.resolve_right fun ⟨⟨_, _, hn⟩, _⟩ => by simp at hn
  have hf : failedFatally es₃ = false :=
    List.any_eq_false.2 fun e he => by simp [hnone e he]
  obtain ⟨hv₅, hquestion, -⟩ := evidence_of_decide hdecided
  have hv₆ : evidence es₆ = { writes := es₆.map Exchange.request } := by
    rcases h with ⟨fault, rfl, rfl, -⟩ | ⟨d, rfl, h⟩
    · rfl
    · exact (evidence_of_carryOut h).1
  have hs : Staged es₁ es₃ es₅ es₆ := ⟨hv₁, hv₃, hv₅, hv₆⟩
  obtain ⟨hw, -, hc, hb, hf', hd, -⟩ := Evidence.mk.inj hs.evidence_append
  refine ⟨hc, .of_staged hs hreads (fun hn => by simp [ht] at hn) hacted.inOrder
    hacted.untilFatal (fun _ _ => hacted.eq_callsFrom hnone) (by simp [ht, hf, hquestion]),
    hs.map_request, (objectBefore_congr hb).symm,
    .inr ⟨?_, es₁ ++ es₃, es₅, es₆, decided, by simp, hdecided, hd, ?_, h⟩⟩
  · rw [timedOut_congr hb, hf', ht, hf]
    rfl
  · exact hw.trans (Evidence.mk.inj hv₆).1.symm

/-- Unless it was stopped that part asks for the change that the replies lead to. -/
theorem writes_of_propagate {found : Bool} {actions : List Action}
    {object : Option RemoteObject} {r : Except Fault Bool}
    (h : Yields (t.propagate found actions) es (object, r)) :
    writes es = if !found || timedOut es || failedFatally es then []
      else (t.change? object (directoryReply? es)).toList := by
  obtain ⟨-, -, -, -, ⟨hs, hw, -⟩ | ⟨hs, es₁, es₂, es₃, decided, -, hd, hreply, hw, hc⟩⟩ :=
    propagate_stages h
  · rw [if_pos hs, hw]
  rw [hs, hreply, (evidence_of_decide hd).2.2, hw]
  rcases hc with ⟨fault, rfl, rfl, -⟩ | ⟨d, rfl, hc⟩
  · rfl
  · exact writes_of_carryOut hc

theorem evidence_of_opening {now : Calendar.Instant} {actions : List Action} {found : Bool} :
    evidence [⟨.now, now⟩, ⟨.actions t.resource, actions⟩, ⟨.connector t.resource, found⟩] =
      { hasConnector := found } := by
  cases found <;> rfl

theorem writes_of_opening
    (h : es.map Exchange.request = [.now, .actions t.resource, .connector t.resource]) :
    writes es = [] := by
  rw [writes, h]
  rfl

/-- What comes before and after that part adds no more than whether there is a connector. -/
theorem evidence_of_parts {es₀ es₂ : ExecutionLog} {found : Bool} (es₁ : ExecutionLog)
    (h₀ : evidence es₀ = { hasConnector := found }) (h₂ : evidence es₂ = {}) :
    evidence (es₀ ++ (es₁ ++ es₂)) =
      { evidence es₁ with hasConnector := found || hasConnector es₁ } := by
  rw [evidence_append, evidence_append, h₀, h₂, Evidence.add_nothing]
  simp [Evidence.add, evidence]

/-- A log tells whether there is a connector, and which object was read, as that part was told. -/
theorem found_of_stages {es₀ es₁ es₂ : ExecutionLog} {found : Bool} {actions : List Action}
    {object : Option RemoteObject} {outcome : Except Fault Bool}
    (h₀ : evidence es₀ = { hasConnector := found })
    (hp : Yields (t.propagate found actions) es₁ (object, outcome)) (h₂ : evidence es₂ = {}) :
    hasConnector (es₀ ++ (es₁ ++ es₂)) = found ∧ objectBefore (es₀ ++ (es₁ ++ es₂)) = object := by
  obtain ⟨h₁, -, -, rfl, -⟩ := propagate_stages hp
  have hv := evidence_of_parts es₁ h₀ h₂
  refine ⟨(congrArg Evidence.hasConnector hv).trans ?_, (SameChange.of_evidence hv).objectBefore⟩
  rw [h₁, Bool.or_false]

/-- The part that may change the target system says all about the change. What comes before it asks
whether there is a connector, and what comes after it, if anything does, only concludes. -/
theorem execute_parts {settings : Settings} {r : Except Fault Execution}
    (h : Yields (t.execute settings) es r) :
    ∃ es₀ es₁ es₂ outcome, es = es₀ ++ (es₁ ++ es₂) ∧
      es₀.map Exchange.request = [.now, .actions t.resource, .connector t.resource] ∧
      SameChange es es₁ ∧
      Yields (t.propagate (hasConnector es) (chain es)) es₁ (objectBefore es, outcome) ∧
      (∀ e ∈ es₂, e.request.isConcluding) ∧
      (∀ fault, r = .error fault → es₂ = []) ∧ t.ResultsIn settings outcome r := by
  obtain ⟨now, actions, found, es₁, es₂, object, outcome, he, hp, hc⟩ := execute_cases h
  let es₀ : ExecutionLog :=
    [⟨.now, now⟩, ⟨.actions t.resource, actions⟩, ⟨.connector t.resource, found⟩]
  replace he : es = es₀ ++ (es₁ ++ es₂) := he
  have hv₀ : evidence es₀ = { hasConnector := found } := evidence_of_opening
  have hconcluding : ∀ e ∈ es₂, e.request.isConcluding := by
    rcases hc with ⟨_, _, rfl, _⟩ | ⟨_, _, _, _, hc, _⟩
    · simp
    · exact asks_conclude _ _ hc
  have hv₂ : evidence es₂ = {} := evidence_of_isConcluding hconcluding
  obtain ⟨hf, hb⟩ := he ▸ found_of_stages hv₀ hp hv₂
  have hchain : chain es = actions := by
    rw [he]
    rfl
  refine ⟨es₀, es₁, es₂, outcome, he, rfl, he ▸ .of_evidence (evidence_of_parts es₁ hv₀ hv₂), ?_,
    hconcluding, ?_⟩
  · rw [hf, hb, hchain]
    exact hp
  · rcases hc with ⟨names, rfl, rfl, rfl⟩ | ⟨fault, attempted, execution, rfl, hc, hr⟩
    · exact ⟨fun _ _ => rfl, .refused names⟩
    refine ⟨fun _ hn => by simp at hn, ?_⟩
    rcases hr with ⟨rfl, rfl⟩ | ⟨-, f, rfl, rfl, hf⟩
    · exact .concluded (isEnded_of_conclude hc)
    · exact .failed hf (isEnded_of_conclude hc)

/-- An execution learns which actions there are and whether there is a connector, prepares the
change and asks for it. After that it only concludes. -/
theorem requests_of_execute {settings : Settings} {r : Except Fault Execution}
    (h : Yields (t.execute settings) es r) :
    ∃ rest, es.map Exchange.request =
        [.now, .actions t.resource, .connector t.resource] ++ (upToChange es ++ rest) ∧
      ∀ request ∈ rest, request.isConcluding := by
  obtain ⟨es₀, es₁, es₂, outcome, he, hopening, hsame, hp, hconcluding, -⟩ := execute_parts h
  obtain ⟨-, -, hrequests, -⟩ := propagate_stages hp
  refine ⟨es₂.map Exchange.request, ?_, List.forall_mem_map.2 hconcluding⟩
  rw [hsame.upToChange, ← hrequests, ← hopening, ← List.map_append, ← List.map_append, ← he]

theorem prepares_of_execute {settings : Settings} {r : Except Fault Execution}
    (h : Yields (t.execute settings) es r) : t.Prepares (hasConnector es) (chain es) es := by
  obtain ⟨es₀, es₁, es₂, outcome, -, -, hsame, hp, -⟩ := execute_parts h
  obtain ⟨-, hprepares, -⟩ := propagate_stages hp
  exact hprepares.of_sameChange hsame

theorem writes_of_execute {settings : Settings} {r : Except Fault Execution}
    (h : Yields (t.execute settings) es r) :
    writes es = if stopped es then []
      else (t.change? (objectBefore es) (directoryReply? es)).toList := by
  obtain ⟨es₀, es₁, es₂, outcome, -, -, hsame, hp, -⟩ := execute_parts h
  rw [stopped, hsame.writes, hsame.failedFatally, hsame.directoryReply?, hsame.timedOut]
  exact writes_of_propagate hp

/-- The directory says that the subject has the resource. -/
def isAssigned (t : Task) (reply : Option (Except StoreError (List String))) : Prop :=
  ∃ names, reply = some (.ok names) ∧ t.resource.key ∈ names

/-- The directory says that the subject does not have the resource, or does not know it. -/
def isReleased (t : Task) (reply : Option (Except StoreError (List String))) : Prop :=
  (∃ names, reply = some (.ok names) ∧ t.resource.key ∉ names) ∨
    ∃ kind key, reply = some (.error (.subjectNotFound kind key))

theorem request?_converge_none {r : Request} :
    t.request? (t.converge none) = some r ↔
      (t.operation = .create → t.withoutValue = []) ∧ r = .create t t.wanted := by
  unfold converge
  split_ifs with h
  · simp [request?, h]
  · have hn : t.operation = .create → t.withoutValue = [] :=
      fun ho => by_contra fun hw => h ⟨ho, hw⟩
    simp only [request?, Option.some.injEq, eq_true hn, true_and]
    exact eq_comm

theorem request?_converge_some {o : RemoteObject} {r : Request} :
    t.request? (t.converge (some o)) = some r ↔
      ¬(t.wanted.difference o.fullAttributes).isEmpty ∧
        r = .update t o.uid (t.wanted.difference o.fullAttributes) := by
  rw [converge, changes_eq_difference]
  split_ifs with h
  · simp [request?, h]
  · simp [request?, h, eq_comm]

theorem converge_eq_nothing {object : Option RemoteObject} :
    t.converge object = .nothing ↔
      ∃ o, object = some o ∧ (t.wanted.difference o.fullAttributes).isEmpty := by
  rcases object with _ | o
  · rw [converge]
    split_ifs <;> simp
  · rw [converge, changes_eq_difference]
    split_ifs with hd <;> simp [hd]

theorem call_of_converge {object : Option RemoteObject} {call : Request}
    (h : t.request? (t.converge object) = some call) :
    (∃ attributes, call = .create t attributes) ∨
      ∃ uid attributes, call = .update t uid attributes := by
  rcases object with _ | o
  · exact .inl ⟨_, (request?_converge_none.1 h).2⟩
  · exact .inr ⟨_, _, (request?_converge_some.1 h).2⟩

/-- A change is what the attributes call for, or a deletion if the directory lets the object go. -/
theorem change?_eq_some {object : Option RemoteObject}
    {reply : Option (Except StoreError (List String))} {r : Request} :
    t.change? object reply = some r ↔
      (t.operation ≠ .delete ∧ t.request? (t.converge object) = some r) ∨
      ∃ o, t.operation = .delete ∧ object = some o ∧
        ((t.isAssigned reply ∧ t.request? (t.converge object) = some r) ∨
          t.isReleased reply ∧ r = .delete t o.uid) := by
  unfold change? isAssigned isReleased
  rcases ho : t.operation
  · simp
  · simp
  rcases object with _ | o
  · simp
  rcases reply with _ | (_ | _ | ⟨kind, key⟩) | names
  · simp
  · simp [verdict]
  · simp [verdict]
  · simpa [verdict, request?] using eq_comm
  · by_cases hn : t.resource.key ∈ names
    · simp [verdict, hn]
    · simp [verdict, hn, request?, eq_comm]

theorem change?_eq_create {object : Option RemoteObject}
    {reply : Option (Except StoreError (List String))} {t' : Task} {attributes : AttributeSet} :
    t.change? object reply = some (.create t' attributes) ↔
      t' = t ∧ attributes = t.wanted ∧ object = none ∧
        (t.operation = .update ∨ t.operation = .create ∧ t.withoutValue = []) := by
  rw [change?_eq_some]
  rcases object with _ | o
  · rw [request?_converge_none]
    rcases ho : t.operation <;> simp [and_comm, and_assoc, and_left_comm]
  · rw [request?_converge_some]
    simp

theorem change?_eq_update {object : Option RemoteObject}
    {reply : Option (Except StoreError (List String))} {t' : Task} {uid : Uid} {d : AttributeSet} :
    t.change? object reply = some (.update t' uid d) ↔
      t' = t ∧ ∃ o, object = some o ∧ uid = o.uid ∧ d = t.wanted.difference o.fullAttributes ∧
        ¬d.isEmpty ∧ (t.operation ≠ .delete ∨ t.isAssigned reply) := by
  rw [change?_eq_some]
  rcases object with _ | o
  · rw [request?_converge_none]
    simp
  · rw [request?_converge_some]
    constructor
    · rintro (⟨ho, hd, hr⟩ | ⟨_, -, -, ⟨ha, hd, hr⟩ | ⟨-, hr⟩⟩)
      · obtain ⟨rfl, rfl, rfl⟩ := Request.update.inj hr
        exact ⟨rfl, o, rfl, rfl, rfl, hd, .inl ho⟩
      · obtain ⟨rfl, rfl, rfl⟩ := Request.update.inj hr
        exact ⟨rfl, o, rfl, rfl, rfl, hd, .inr ha⟩
      · simp at hr
    · rintro ⟨rfl, o, ho, rfl, rfl, hd, h⟩
      obtain rfl := Option.some.inj ho
      by_cases hop : t'.operation = .delete
      · exact .inr ⟨_, hop, rfl, .inl ⟨h.resolve_left (not_not_intro hop), hd, rfl⟩⟩
      · exact .inl ⟨hop, hd, rfl⟩

theorem change?_eq_delete {object : Option RemoteObject}
    {reply : Option (Except StoreError (List String))} {t' : Task} {uid : Uid} :
    t.change? object reply = some (.delete t' uid) ↔
      t' = t ∧ t.operation = .delete ∧
        ∃ o, object = some o ∧ uid = o.uid ∧ t.isReleased reply := by
  rw [change?_eq_some]
  rcases object with _ | o
  · rw [request?_converge_none]
    simp
  · rw [request?_converge_some]
    simp [and_comm, and_assoc, and_left_comm]

/-- An execution first reads the object, if there is a connector and an account id to look for.
Unless the read timed out it calls the actions of the chain in order, up to the first one that fails
fatally. Unless that stopped it, it asks the directory about the subject of a present object that is
to be deleted. It asks for one change at most, and for none if it was stopped. Else an absent object
is created, unless values for it are missing; a present one is deleted if it was to be and the
directory lets it go, and is brought up to date if it differs and need not be deleted. A new object
gets all attributes of the task but the markers, a present one those of them in which it differs. -/
theorem execute_writes (world : Respondent Request Request.Answer) (t : Task)
    (settings : Settings) :
    let es : ExecutionLog := ((t.execute settings).trace world).2
    let wanted := (t.attributes.erase missingMarker).erase emptyMarker
    let calls := (chain es).mapIdx fun place action =>
      Request.actBefore place action t (objectBefore es)
    (∃ rest, es.map Exchange.request = [.now, .actions t.resource, .connector t.resource] ++
        (readsBefore es ++ ((calledBefore es).map Exchange.request ++
          (questions es ++ (writes es ++ rest)))) ∧
        ∀ request ∈ rest, request.isConcluding) ∧
      readsBefore es = (if hasConnector es then
        (((t.oldAccountId.or t.accountId).filter fun id => id != "").map fun id =>
          Request.read .before t ⟨(t.uid id).attributeName, id⟩ t.namesToRead).toList else []) ∧
      (!hasConnector es || timedOut es → calledBefore es = []) ∧
      (calledBefore es).map Exchange.request <+: calls ∧
      (∀ e ∈ (calledBefore es).dropLast, isFatal e = false) ∧
      (¬stopped es → (calledBefore es).map Exchange.request = calls) ∧
      questions es = (if ¬stopped es ∧ t.operation = .delete ∧ (objectBefore es).isSome then
        [.resourceNames t.subjectKind t.subjectKey] else []) ∧
      (writes es).length ≤ 1 ∧
      (stopped es → writes es = []) ∧
      (¬stopped es →
        (∀ t' attributes, .create t' attributes ∈ writes es ↔
          t' = t ∧ attributes = wanted ∧ objectBefore es = none ∧
            (t.operation = .update ∨ t.operation = .create ∧
              ∀ marker ∈ [missingMarker, emptyMarker], ∀ v,
                t.attributes.get? marker = some v → v.asStrings = [])) ∧
        (∀ t' uid, .delete t' uid ∈ writes es ↔
          t' = t ∧ t.operation = .delete ∧
            ∃ o, objectBefore es = some o ∧ uid = o.uid ∧ t.isReleased (directoryReply? es)) ∧
        ∀ t' uid d, .update t' uid d ∈ writes es ↔
          t' = t ∧ ∃ o, objectBefore es = some o ∧ uid = o.uid ∧
            d = wanted.difference o.fullAttributes ∧ ¬d.isEmpty ∧
            (t.operation ≠ .delete ∨ t.isAssigned (directoryReply? es))) ∧
      (∀ name v, wanted.get? name = some v ↔ t.Wants name v) ∧
      ∀ (o : RemoteObject) name v, (wanted.difference o.fullAttributes).get? name = some v ↔
        t.Wants name v ∧ ¬o.Shows name v := by
  intro es wanted calls
  have hy : Yields (t.execute settings) es ((t.execute settings).trace world).1 :=
    yields_trace world _
  have hprepares := prepares_of_execute hy
  have hcalls : t.callsFrom (objectBefore es) 0 (chain es) = calls := by
    simp only [callsFrom, Nat.zero_add, calls]
  have hw := writes_of_execute hy
  have hstopped : (!hasConnector es || timedOut es || failedFatally es) = stopped es := rfl
  refine ⟨?_, hprepares.reads, hprepares.unreached, hcalls ▸ hprepares.inOrder,
    hprepares.untilFatal, fun hs => ?_, ?_, ?_, fun hs => by rw [hw, if_pos hs], fun hs => ?_,
    fun name v => get?_wanted, fun o name v => get?_difference_wanted⟩
  · obtain ⟨rest, hrest, hconcluding⟩ := requests_of_execute hy
    refine ⟨rest, ?_, hconcluding⟩
    rw [hrest, upToChange]
    simp only [List.append_assoc]
  · rw [← hcalls]
    exact hprepares.all (hstopped.trans (by simpa using hs))
  · rw [hprepares.questions, hstopped, question?]
    by_cases hs : stopped es
    · rw [if_pos hs, if_neg fun hn => hn.1 hs]
    · rw [if_neg hs]
      simp only [hs, Bool.false_eq_true, not_false_eq_true, true_and]
      split_ifs <;> rfl
  · rw [hw]
    split_ifs
    · simp
    · rcases t.change? (objectBefore es) (directoryReply? es) with _ | _ <;> simp
  · rw [hw, if_neg hs]
    simp only [Option.mem_toList, ← withoutValue_eq_nil]
    exact ⟨fun _ _ => change?_eq_create, fun _ _ => change?_eq_delete,
      fun _ _ _ => change?_eq_update⟩

/-- An object with a name that is all there is to it. -/
def named (name : String) : RemoteObject :=
  ⟨"__ACCOUNT__", .ofValue name, name, .ofList [("cn", .string name)]⟩

/-- The task to make what had an account id before into the object named `new`. -/
def toNew (old : Option String) : Task :=
  { plain ⟨0⟩ .update .user ⟨0⟩ (.bare "ldap" "directory") with
    attributes := .ofList [(nameAttribute, .string "new"), ("cn", .string "new")]
    accountId := some "new"
    oldAccountId := old }

/-- The task to name `old` anew, with a marker that lists the mail. -/
def oldToNew : Task :=
  { toNew (some "old") with
    attributes := .ofList [(nameAttribute, .string "new"), ("cn", .string "old"),
      (missingMarker, .strings ["mail"])] }

/-- The task to delete `old`. -/
def deleteOld : Task :=
  { oldToNew with operation := .delete }

/-- A target system that shows one object or none, a directory that gives one reply, and three
actions of which some fail. -/
def showing (object : Option RemoteObject) (reply : Except StoreError (List String))
    (failing : List String) : Respondent Request Request.Answer
  | _, .now => ⟨0, 0⟩
  | _, .newEventId => ⟨0⟩
  | _, .actions _ => [⟨"notice", .tolerated⟩, ⟨"gate", .fatal⟩, ⟨"mail", .fatal⟩]
  | _, .connector _ => true
  | _, .read _ _ _ _ => .ok object
  | _, .create _ _ => .ok (.ofValue "new")
  | _, .update _ uid _ => .ok uid
  | _, .delete _ _ => .ok ()
  | _, .resourceNames _ _ => reply
  | _, .save _ => .ok ()
  | _, .append _ _ => .ok ⟨0⟩
  | _, .flush => .ok ()
  | _, .audit _ => .ok ()
  | _, .notify _ => .ok ()
  | _, .actBefore _ action _ _ =>
    if action.name ∈ failing then .error (.rejected "not now") else .ok ()
  | _, .actAfter _ _ _ _ _ => .ok ()

/-- The log of a task where `old` is shown. -/
def logOfOld (t : Task) (reply : Except StoreError (List String)) (failing : List String) :
    ExecutionLog :=
  ((t.execute .default).trace (showing (named "old") reply failing)).2

/-- An absent object is created without the marker, unless the task is to create it, and a present
one gets its new name. After a fatal failure no further action is called, and nothing is changed. If
the object is to be deleted the directory is asked: it goes if the resource is not among the reply,
gets its new name if it is, and stays as it is if there is no reply. -/
theorem execute_writes_renamed :
    let renamed := AttributeSet.ofList [(nameAttribute, .string "new")]
    (.create oldToNew (renamed.set "cn" (.string "old")) ∈
        writes ((oldToNew.execute .default).trace (showing none (.ok []) [])).2 ∧
      writes (({ oldToNew with operation := .create }.execute .default).trace
        (showing none (.ok []) [])).2 = []) ∧
      (readsBefore (oldToNew.logOfOld (.ok []) ["notice"]) =
          [.read .before oldToNew ⟨"__UID__", "old"⟩ ["__NAME__", "cn"]] ∧
        questions (oldToNew.logOfOld (.ok []) ["notice"]) = [] ∧
        .update oldToNew (.ofValue "old") renamed ∈
          writes (oldToNew.logOfOld (.ok []) ["notice"])) ∧
      ((calledBefore (oldToNew.logOfOld (.ok []) ["notice", "gate"])).map Exchange.request =
          [.actBefore 0 ⟨"notice", .tolerated⟩ oldToNew (named "old"),
            .actBefore 1 ⟨"gate", .fatal⟩ oldToNew (named "old")] ∧
        writes (oldToNew.logOfOld (.ok []) ["notice", "gate"]) = []) ∧
      (questions (deleteOld.logOfOld (.ok ["mail"]) []) = [.resourceNames .user ⟨0⟩] ∧
        .delete deleteOld (.ofValue "old") ∈ writes (deleteOld.logOfOld (.ok ["mail"]) [])) ∧
      (questions (deleteOld.logOfOld (.ok ["ldap"]) []) = [.resourceNames .user ⟨0⟩] ∧
        .update deleteOld (.ofValue "old") renamed ∈
          writes (deleteOld.logOfOld (.ok ["ldap"]) [])) ∧
      questions (deleteOld.logOfOld (.error (.unavailable "offline")) []) =
          [.resourceNames .user ⟨0⟩] ∧
        writes (deleteOld.logOfOld (.error (.unavailable "offline")) []) = [] := by
  intro renamed
  have running {es : ExecutionLog} (h : stopped es = false) : ¬stopped es := by simp [h]
  obtain ⟨-, -, -, -, -, -, -, -, -, habsent, -⟩ :=
    execute_writes (showing none (.ok []) []) oldToNew .default
  obtain ⟨-, hread, -, -, -, -, hnone, -, -, hpresent, -⟩ :=
    execute_writes (showing (named "old") (.ok []) ["notice"]) oldToNew .default
  obtain ⟨-, -, -, -, -, -, -, -, hhalted, -⟩ :=
    execute_writes (showing (named "old") (.ok []) ["notice", "gate"]) oldToNew .default
  obtain ⟨-, -, -, -, -, -, hreleased, -, -, hgone, -⟩ :=
    execute_writes (showing (named "old") (.ok ["mail"]) []) deleteOld .default
  obtain ⟨-, -, -, -, -, -, hassigned, -, -, hkept, -⟩ :=
    execute_writes (showing (named "old") (.ok ["ldap"]) []) deleteOld .default
  obtain ⟨-, -, -, -, -, -, hunknown, -⟩ :=
    execute_writes (showing (named "old") (.error (.unavailable "offline")) []) deleteOld .default
  refine ⟨⟨?_, rfl⟩, ⟨?_, ?_, ?_⟩, ⟨rfl, hhalted rfl⟩, ⟨?_, ?_⟩, ⟨?_, ?_⟩, ?_, rfl⟩
  · exact ((habsent (running rfl)).1 _ _).2 ⟨rfl, rfl, rfl, .inl rfl⟩
  · exact hread.trans (if_pos rfl)
  · exact hnone.trans (if_neg fun h => by cases h.2.1)
  · exact ((hpresent (running rfl)).2.2 _ _ _).2
      ⟨rfl, named "old", rfl, rfl, rfl, by decide, .inl (by decide)⟩
  · exact hreleased.trans (if_pos ⟨running rfl, rfl, rfl⟩)
  · exact ((hgone (running rfl)).2.1 _ _).2
      ⟨rfl, rfl, named "old", rfl, rfl, .inl ⟨["mail"], rfl, by decide⟩⟩
  · exact hassigned.trans (if_pos ⟨running rfl, rfl, rfl⟩)
  · exact ((hkept (running rfl)).2.2 _ _ _).2
      ⟨rfl, named "old", rfl, rfl, rfl, by decide, .inr ⟨["ldap"], rfl, by decide⟩⟩
  · exact hunknown.trans (if_pos ⟨running rfl, rfl, rfl⟩)

end Task

end Provisioning
