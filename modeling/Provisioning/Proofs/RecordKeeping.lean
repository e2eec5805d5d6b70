import Provisioning.Proofs.BestEffort
import Provisioning.Proofs.Endings
import Provisioning.Proofs.SharedStore

/-!
# What an execution leaves on record

An execution that is over tells the audit and the notifications the same one event, hands itself to
the store if the trace level asks for it, and calls each action of the chain once; all of them get
the execution as it is returned (`execute_records`). What is told is added up as `Records` over the
stages of the conclusion: the read after the change, the store (`Registers`), and the telling
(`records_of_tell`).
-/

namespace Provisioning

open Program ExecutionLog

/-- Whether a request reads the object as it is after the change. -/
def Request.isReadAfter : Request → Bool
  | .read .after _ _ _ => true
  | _ => false

/-- Whether a request calls an action after the change. -/
def Request.isActAfter : Request → Bool
  | .actAfter _ _ _ _ _ => true
  | _ => false

namespace ExecutionLog

/-- The events that the audit was told, in order. -/
def audited (es : ExecutionLog) : List Event :=
  es.filterMap fun
    | ⟨.audit event, _⟩ => some event
    | _ => none

/-- The events that the notifications were told, in order. -/
def notified (es : ExecutionLog) : List Event :=
  es.filterMap fun
    | ⟨.notify event, _⟩ => some event
    | _ => none

/-- The calls that read the object after the change, in order. -/
def readsAfter (es : ExecutionLog) : List Request :=
  (es.map Exchange.request).filter Request.isReadAfter

/-- The calls of actions after the change, in order. -/
def callsAfter (es : ExecutionLog) : List Request :=
  (es.map Exchange.request).filter Request.isActAfter

/-- The reply to the read after the change, if there was one. -/
def readAfter? (es : ExecutionLog) : Option (Except ConnectorError (Option RemoteObject)) :=
  es.findSome? fun
    | ⟨.read .after _ _ _, reply⟩ => some reply
    | _ => none

/-- The object that was read after the change. A failed read gives none. -/
def objectAfter (es : ExecutionLog) : Option RemoteObject :=
  match readAfter? es with
  | some (.ok object) => object
  | _ => none

/-- All that a log says about what was put on record. -/
structure Records where
  audited : List Event := []
  notified : List Event := []
  readsAfter : List Request := []
  readAfter? : Option (Except ConnectorError (Option RemoteObject)) := none
  ofStore : ExecutionLog := []
  callsAfter : List Request := []

def records (es : ExecutionLog) : Records :=
  ⟨audited es, notified es, readsAfter es, readAfter? es, ofStore es, callsAfter es⟩

/-- What two logs say, one after the other. -/
def Records.add (a b : Records) : Records :=
  ⟨a.audited ++ b.audited, a.notified ++ b.notified, a.readsAfter ++ b.readsAfter,
    a.readAfter?.or b.readAfter?, a.ofStore ++ b.ofStore, a.callsAfter ++ b.callsAfter⟩

theorem records_append (es₁ es₂ : ExecutionLog) :
    records (es₁ ++ es₂) = (records es₁).add (records es₂) := by
  simp [records, Records.add, audited, notified, readsAfter, readAfter?, callsAfter,
    List.findSome?_append, ofStore_append]

theorem Records.nothing_add (a : Records) : Records.add {} a = a := by
  simp [add]

theorem Records.add_nothing (a : Records) : a.add {} = a := by
  simp [add]

theorem objectAfter_congr {es₁ es₂ : ExecutionLog} (h : readAfter? es₁ = readAfter? es₂) :
    objectAfter es₁ = objectAfter es₂ := by
  rw [objectAfter, h, objectAfter]

/-- Nothing is put on record before the change is over. -/
theorem records_of_not_isConcluding {es : ExecutionLog} (h : ∀ e ∈ es, !e.request.isConcluding) :
    records es = {} := by
  induction es with
  | nil => rfl
  | cons e es ih =>
    obtain ⟨he, hes⟩ := List.forall_mem_cons.1 h
    have hrecords : records [e] = {} := by
      obtain ⟨r, reply⟩ := e
      rcases r with _ | _ | _ | _ | ⟨_ | _, _, _, _⟩ | _ | _ | _ | _ | _ | _ | _ | _ | _ | _ | _ <;>
        first | exact absurd he Bool.false_ne_true | rfl
    rw [← List.singleton_append, records_append, hrecords, ih hes, Records.nothing_add]

/-- The dealings with the store leave nothing else on record. -/
theorem records_of_isOfStore {es : ExecutionLog} (h : ∀ e ∈ es, e.request.isOfStore) :
    records es = { ofStore := es } := by
  induction es with
  | nil => rfl
  | cons e es ih =>
    obtain ⟨he, hes⟩ := List.forall_mem_cons.1 h
    have hrecords : records [e] = { ofStore := [e] } := by
      obtain ⟨r, reply⟩ := e
      rcases r with _ | _ | _ | _ | _ | _ | _ | _ | _ | _ | _ | _ | _ | _ | _ | _ <;>
        first | exact absurd he Bool.false_ne_true | rfl
    rw [← List.singleton_append, records_append, hrecords, ih hes]
    simp [Records.add]

theorem exists_isAccepted_of_part {es₁ es es₂ : ExecutionLog} (h₁ : writes es₁ = [])
    (h₂ : writes es₂ = []) :
    (∃ e ∈ es₁ ++ (es ++ es₂), Task.isAccepted e) ↔ ∃ e ∈ es, Task.isAccepted e := by
  constructor
  · rintro ⟨e, he, ha⟩
    simp only [List.mem_append] at he
    rcases he with he | he | he
    · simp [not_isAccepted_of_writes h₁ he] at ha
    · exact ⟨e, he, ha⟩
    · simp [not_isAccepted_of_writes h₂ he] at ha
  · rintro ⟨e, he, ha⟩
    exact ⟨e, by simp [he], ha⟩

end ExecutionLog

theorem ExecutionStatus.isFailure_outcome {mode : Mode} {well : Bool} :
    (ExecutionStatus.outcome mode well).isFailure = !well := by
  rcases mode with _ | _ <;> rcases well with _ | _ <;> rfl

namespace Task

variable {t : Task} {es : ExecutionLog} {settings : Settings}

/-- The call that reads the object after the change, if there is an account id to look for. -/
def readAfterCall? (t : Task) : Option Request :=
  (idToRead t.accountId).map fun id => .read .after t (t.uid id) t.namesToRead

/-- The dealings of an execution with the store, up to the first one that fails, and the identifier
that it gets: the one that it was appended under, if nothing has failed. -/
inductive Registers (t : Task) (execution : Execution) : ExecutionLog → Option ExecutionId → Prop
  | unsaved (error : StoreError) : Registers t execution [⟨.save t, .error error⟩] none
  | unappended (error : StoreError) :
      Registers t execution [⟨.save t, .ok ()⟩, ⟨.append t execution, .error error⟩] none
  | unflushed (id : ExecutionId) (error : StoreError) :
      Registers t execution
        [⟨.save t, .ok ()⟩, ⟨.append t execution, .ok id⟩, ⟨.flush, .error error⟩] none
  | registered (id : ExecutionId) :
      Registers t execution [⟨.save t, .ok ()⟩, ⟨.append t execution, .ok id⟩, ⟨.flush, .ok ()⟩]
        (some id)

theorem Registers.ne_nil {execution : Execution} {id : Option ExecutionId}
    (h : t.Registers execution es id) : es ≠ [] := by
  cases h <;> simp

theorem registers_of_register {execution r : Execution} (h : Yields (t.register execution) es r)
    (hid : execution.id = none) :
    t.Registers { r with id := none } es r.id := by
  have hnone : { execution with id := none } = execution := by rw [← hid]
  rcases register_cases h with ⟨error, rfl, rfl⟩ | ⟨error, rfl, rfl⟩ | ⟨id, error, rfl, rfl⟩ |
    ⟨id, rfl, rfl⟩
  · rw [hid]
    exact .unsaved error
  · rw [hid, hnone]
    exact .unappended error
  · rw [hid, hnone]
    exact .unflushed id error
  · simp only [Execution.withId, hnone]
    exact .registered id

/-- Registering deals with the store only. -/
theorem records_of_register {execution r : Execution} (h : Yields (t.register execution) es r) :
    records es = { ofStore := es } :=
  records_of_isOfStore fun e he => (Bool.and_eq_true_iff.1 (asks_register _ _ h e he)).2

/-- The object is read after the change if there is a connector and the settings ask for it. -/
theorem records_of_readAfter {found : Bool} {after : Option RemoteObject}
    (h : Yields (t.readAfter settings found) es after) :
    records es = {
        readsAfter := if found && settings.fetchAfter then t.readAfterCall?.toList else []
        readAfter? := readAfter? es } ∧ after = objectAfter es := by
  unfold readAfter at h
  split_ifs at h ⊢
  · obtain ⟨es₁, es₂, read, rfl, h₁, h₂⟩ := yields_bind.1 h
    have hafter : es₂ = [] ∧ after = read.toOption.join := by
      rcases read with fault | object <;> exact yields_pure.1 h₂
    obtain ⟨rfl, rfl⟩ := hafter
    rw [List.append_nil]
    rw [yields_read] at h₁
    unfold readAfterCall?
    rcases hid : idToRead t.accountId with _ | id <;> rw [hid] at h₁
    · obtain ⟨rfl, rfl⟩ := h₁
      exact ⟨rfl, rfl⟩
    · obtain ⟨reply, rfl, rfl⟩ := h₁
      refine ⟨rfl, ?_⟩
      rcases reply with error | object <;>
        simp only [readAs, objectAfter, readAfter?, List.findSome?_singleton]
      · split_ifs <;> rfl
      · rfl
  · obtain ⟨rfl, rfl⟩ := yields_pure.1 h
    exact ⟨rfl, rfl⟩

/-- The actions after the change are called in their order, whatever becomes of them. -/
theorem records_of_runAfter {execution : Execution} {object : Option RemoteObject} :
    ∀ {place : Nat} {actions : List Action} {es : ExecutionLog},
      Yields (t.runAfter execution object place actions) es () →
        records es = { callsAfter := actions.mapIdx fun i action =>
          Request.actAfter (place + i) action t execution object }
  | _, [], _, h => by
    obtain ⟨rfl, -⟩ := yields_pure.1 h
    rfl
  | place, action :: rest, _, h => by
    obtain ⟨reply, es, rfl, hn⟩ := yields_ask_bind.1 h
    rw [← List.singleton_append, records_append, records_of_runAfter hn, List.mapIdx_cons]
    simp only [Nat.add_right_comm _ 1, Nat.add_assoc]
    rfl

/-- The audit and the notifications are told the same event. -/
theorem records_of_tell {actions : List Action} {execution : Execution}
    {before after : Option RemoteObject}
    (h : Yields (t.tell actions execution before after) es ()) :
    ∃ id now event, event = Event.ofExecution id now t execution before after ∧
      records es = {
        audited := [event]
        notified := [event]
        callsAfter := actions.mapIdx fun place action =>
          Request.actAfter place action t execution after } := by
  unfold tell at h
  obtain ⟨id, es, rfl, h₁⟩ := yields_ask_bind.1 h
  obtain ⟨now, es, rfl, h₂⟩ := yields_ask_bind.1 h₁
  obtain ⟨audit, es, rfl, h₃⟩ := yields_ask_bind.1 h₂
  obtain ⟨notify, es, rfl, h₄⟩ := yields_ask_bind.1 h₃
  refine ⟨id, now, _, rfl, ?_⟩
  let event := Event.ofExecution id now t execution before after
  let told : ExecutionLog :=
    [⟨.newEventId, id⟩, ⟨.now, now⟩, ⟨.audit event, audit⟩, ⟨.notify event, notify⟩]
  have htold : records told = { audited := [event], notified := [event] } := rfl
  show records (told ++ es) = _
  rw [records_append, htold, records_of_runAfter h₄]
  simp [Records.add, event]

theorem mustRegister_iff {status : ExecutionStatus} : t.mustRegister status ↔
    t.resource.trace t.operation = .all ∨
      t.resource.trace t.operation = .failures ∧ status.isFailure := by
  unfold mustRegister
  rcases t.resource.trace t.operation with _ | _ | _ <;> simp [TraceLevel.keepsFailures]

/-- What comes after the change goes on record, with the execution that it ends with. -/
theorem records_of_conclude {found : Bool} {actions : List Action} {execution r : Execution}
    {before : Option RemoteObject} {fault : Option Fault} {attempted : Bool}
    (h : Yields (t.conclude settings found actions execution before fault attempted) es r)
    (hid : execution.id = none) :
    ∃ id now event stored, event = Event.ofExecution id now t r before (objectAfter es) ∧
      records es = {
        audited := [event]
        notified := [event]
        readsAfter := if found && settings.fetchAfter then t.readAfterCall?.toList else []
        readAfter? := readAfter? es
        ofStore := stored
        callsAfter := actions.mapIdx fun place action =>
          Request.actAfter place action t r (objectAfter es) } ∧
      if attempted && t.mustRegister (.outcome t.mode fault.isNone) then
        t.Registers { r with id := none } stored r.id
      else stored = [] ∧ r.id = none := by
  obtain ⟨now, es₁, after, es₂, es₃, rfl, h₁, h₂, h₃⟩ := conclude_cases h
  obtain ⟨hr₁, rfl⟩ := records_of_readAfter h₁
  obtain ⟨id, now', event, hevent, hr₃⟩ := records_of_tell h₃
  have hfinished : (execution.finished (.outcome t.mode fault.isNone) fault
      settings.maxReasonLength now).id = none := by
    rcases fault with _ | _ <;> exact hid
  have hr₂ : records es₂ = { ofStore := es₂ } := by
    simp only at h₂
    split_ifs at h₂
    · exact records_of_register h₂
    · rw [h₂.1]
      rfl
  have hr : records (⟨.now, now⟩ :: (es₁ ++ (es₂ ++ es₃))) = {
        audited := [event]
        notified := [event]
        readsAfter := if found && settings.fetchAfter then t.readAfterCall?.toList else []
        readAfter? := readAfter? es₁
        ofStore := es₂
        callsAfter := actions.mapIdx fun place action =>
          Request.actAfter place action t r (objectAfter es₁) } := by
    show records (es₁ ++ (es₂ ++ es₃)) = _
    rw [records_append, records_append, hr₁, hr₂, hr₃]
    simp [Records.add]
  obtain ⟨-, -, -, hread, -, -⟩ := Records.mk.inj hr
  rw [objectAfter_congr hread, hread]
  refine ⟨id, now', event, es₂, hevent, hr, ?_⟩
  simp only at h₂
  split_ifs at h₂ ⊢
  · exact registers_of_register h₂ hfinished
  · exact ⟨h₂.1, h₂.2 ▸ hfinished⟩

/-- Something was changed exactly if a call for a change was accepted. -/
theorem accepted_of_propagate {found attempted : Bool} {actions : List Action}
    {object : Option RemoteObject}
    (h : Yields (t.propagate found actions) es (object, .ok attempted)) :
    attempted = true ↔ ∃ e ∈ es, isAccepted e := by
  obtain ⟨-, -, -, -, ⟨-, -, fault, hn, -⟩ | ⟨-, es₁, es₂, es₃, decided, rfl, -, -, hw, hc⟩⟩ :=
    propagate_stages h
  · simp at hn
  rcases hc with ⟨fault, -, -, hn⟩ | ⟨d, -, hc⟩
  · simp at hn
  rcases carryOut_cases hc with
    ⟨names, -, -, hn⟩ | ⟨-, rfl, hn⟩ | ⟨e, -, rfl, ⟨ha, hn⟩ | ⟨-, error, hn⟩⟩
  · simp at hn
  · obtain rfl := Except.ok.inj hn
    have hnone : ∀ e ∈ es₁ ++ (es₂ ++ []), isAccepted e = false :=
      fun e he => not_isAccepted_of_writes hw he
    simpa using hnone
  · obtain rfl := Except.ok.inj hn
    simpa using ⟨e, by simp, ha⟩
  · simp at hn

/-- An execution that is over has concluded what was done to the object. -/
theorem execute_concludes {e : Execution} (h : Yields (t.execute settings) es (.ok e)) :
    ∃ now es₁ es₂ fault attempted,
      es = [⟨.now, now⟩, ⟨.actions t.resource, chain es⟩,
        ⟨.connector t.resource, hasConnector es⟩] ++ (es₁ ++ es₂) ∧
      (∀ e ∈ es₁, !e.request.isConcluding) ∧
      Yields (t.conclude settings (hasConnector es) (chain es) (.started t.id now)
        (objectBefore es) fault attempted) es₂ e ∧
      (attempted = true ↔ fault.isSome ∨ ∃ x ∈ es, isAccepted x) := by
  obtain ⟨now, actions, found, es₁, es₂, object, outcome, he, hp, hr⟩ := execute_cases h
  obtain ⟨_, -, -, hn⟩ | ⟨fault, attempted, _, hok, hc, hf⟩ := hr
  · simp at hn
  obtain rfl := Except.ok.inj hok
  have hv₂ : evidence es₂ = {} := evidence_of_isConcluding (asks_conclude _ _ hc)
  obtain ⟨hfound, hobject⟩ := found_of_stages evidence_of_opening hp hv₂
  replace he : es = [⟨.now, now⟩, ⟨.actions t.resource, actions⟩, ⟨.connector t.resource, found⟩] ++
    (es₁ ++ es₂) := he
  have hchain : chain es = actions := by
    rw [he]
    rfl
  rw [← he] at hfound hobject
  subst hfound hobject hchain
  refine ⟨now, es₁, es₂, fault, attempted, he, asks_propagate _ _ hp, hc, ?_⟩
  rcases hf with ⟨rfl, rfl⟩ | ⟨rfl, f, -, rfl, -⟩
  · have hpart : (∃ x ∈ es, isAccepted x) ↔ ∃ x ∈ es₁, isAccepted x := by
      rw [he]
      exact exists_isAccepted_of_part rfl (Evidence.mk.inj hv₂).1
    simp [hpart, accepted_of_propagate hp]
  · simp

/-- Every execution that is over is told to the audit and to the notifications as one and the same
event, and to every action of the chain, in order. The store is called if the execution failed or a
call for a change was accepted, and the trace level keeps it then. All of them get the execution as
it is returned: with the identifier that the store gave it, if nothing has failed there. -/
theorem execute_records (world : Respondent Request Request.Answer) (t : Task) (settings : Settings)
    (e : Execution) (h : ((t.execute settings).trace world).1 = .ok e) :
    let es : ExecutionLog := ((t.execute settings).trace world).2
    (∃ event, audited es = [event] ∧ notified es = [event] ∧ event.before = objectBefore es ∧
        event.after = objectAfter es ∧ event.execution = e ∧
        (event.result = .failure ↔ e.status.isFailure)) ∧
      readsAfter es = (if hasConnector es && settings.fetchAfter then
        ((idToRead t.accountId).map fun id =>
          Request.read .after t (t.uid id) t.namesToRead).toList else []) ∧
      (ofStore es ≠ [] ↔ (e.status.isFailure ∨ ∃ x ∈ es, isAccepted x) ∧
        (t.resource.trace t.operation = .all ∨
          t.resource.trace t.operation = .failures ∧ e.status.isFailure)) ∧
      (ofStore es ≠ [] → t.Registers { e with id := none } (ofStore es) e.id) ∧
      (ofStore es = [] → e.id = none) ∧
      callsAfter es = (chain es).mapIdx fun place action =>
        Request.actAfter place action t e (objectAfter es) := by
  intro es
  have hy : Yields (t.execute settings) es (.ok e) := h ▸ yields_trace world _
  obtain ⟨now, es₁, es₂, fault, attempted, he, hsilent, hc, hattempted⟩ := execute_concludes hy
  obtain ⟨id, now', event, stored, hevent, hr, hstored⟩ := records_of_conclude hc rfl
  have hes : records es = records es₂ := by
    have h₁ := records_of_not_isConcluding hsilent
    rw [he, records_append, records_append, h₁, Records.nothing_add]
    exact Records.nothing_add _
  rw [hr] at hes
  obtain ⟨haudited, hnotified, hreads, hread, hstore, hcalls⟩ := Records.mk.inj hes
  have hafter : objectAfter es₂ = objectAfter es := (objectAfter_congr hread).symm
  have hfailed : e.status.isFailure = fault.isSome := by
    rw [(isEnded_of_conclude hc).status, ExecutionStatus.isFailure_outcome]
    simp
  refine ⟨⟨event, haudited, hnotified, ?_⟩, hreads, ?_⟩
  · subst hevent
    refine ⟨rfl, hafter, rfl, ?_⟩
    simp [Event.ofExecution]
  rw [hstore, hcalls, hafter]
  have hcalled : (attempted && t.mustRegister (.outcome t.mode fault.isNone)) = true ↔
      (e.status.isFailure ∨ ∃ x ∈ es, isAccepted x) ∧
        (t.resource.trace t.operation = .all ∨
          t.resource.trace t.operation = .failures ∧ e.status.isFailure) := by
    rw [Bool.and_eq_true_iff, hattempted, mustRegister_iff, ← (isEnded_of_conclude hc).status,
      hfailed]
  rw [← hcalled]
  split_ifs at hstored with hmust
  · simp [hmust, hstored.ne_nil, hstored]
  · simp [hmust, hstored]

/-- A kept execution changes the object, and is told to all with the identifier that it got. -/
theorem execute_records_kept :
    let run := (toNewKept.execute .default).trace (attended (named "old"))
    ∃ e event, run.1 = .ok e ∧ e.id = some ⟨0⟩ ∧ audited run.2 = [event] ∧
      notified run.2 = [event] ∧ event.execution = e ∧ event.result = .success ∧
      toNewKept.Registers { e with id := none } (ofStore run.2) e.id ∧
      callsAfter run.2 = [.actAfter 0 ⟨"mail", .fatal⟩ toNewKept e (objectAfter run.2)] := by
  intro run
  obtain ⟨e, hr, hid, hs⟩ : ∃ e, run.1 = .ok e ∧ e.id = some ⟨0⟩ ∧ e.status = .success :=
    ⟨_, rfl, rfl, rfl⟩
  obtain ⟨⟨event, haudited, hnotified, -, -, hexecution, hresult⟩, -, hcalled, hstored, -, hcalls⟩ :=
    execute_records (attended (named "old")) toNewKept .default e hr
  have hsuccess : event.result = .success := by
    rw [hs] at hresult
    rcases hevent : event.result with _ | _
    · rfl
    · exact absurd (hresult.1 hevent) Bool.false_ne_true
  refine ⟨e, event, hr, hid, haudited, hnotified, hexecution, hsuccess, hstored ?_, hcalls⟩
  exact fun hn => by cases hn

end Task

end Provisioning
