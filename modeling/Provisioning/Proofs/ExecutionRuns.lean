import Provisioning.Execution.Run
import Provisioning.Proofs.Runs

/-!
# Runs of an execution

What each part of an execution exchanges with the world and comes to, by the replies: the read
(`yields_read`), the actions before the change (`actedBefore`), the decision (`decide_cases`) and
the call that it leads to (`carryOut_cases`). `propagate_cases` and `execute_cases` put them in
order. What comes after the change only concludes: `asks_conclude`.
-/

namespace Provisioning

open Program

/-- The exchanges of an execution. -/
abbrev ExecutionLog := List (Exchange Request Request.Answer)

theorem yields_ask_bind {α : Type} {r : Request} {f : r.Answer → ExecutionProgram α}
    {es : ExecutionLog} {y : α} :
    Yields (r.ask >>= f) es y ↔ ∃ reply es', es = ⟨r, reply⟩ :: es' ∧ Yields (f reply) es' y :=
  yields_request_bind

namespace Task

variable {t : Task} {es : ExecutionLog}

/-- What the reply to a read counts for: only a timeout is a fault. -/
def readAs (t : Task) : Except ConnectorError (Option RemoteObject) →
    Except Fault (Option RemoteObject)
  | .ok object => .ok object
  | .error e => if e.isTimeout then .error (.ofConnector t.resource.key e) else .ok none

/-- The account id that is looked for, if there is one. -/
def idToRead (accountId : Option String) : Option String :=
  accountId.filter fun id => id != ""

theorem idToRead_eq_some {accountId : Option String} {id : String} :
    idToRead accountId = some id ↔ accountId = some id ∧ id ≠ "" := by
  rw [idToRead, Option.filter_eq_some_iff, bne_iff_ne]

theorem yields_read {stage : Stage} {accountId : Option String}
    {r : Except Fault (Option RemoteObject)} :
    Yields (t.read stage accountId) es r ↔
      match idToRead accountId with
      | none => es = [] ∧ r = .ok none
      | some id => ∃ reply, es = [⟨.read stage t (t.uid id) t.namesToRead, reply⟩] ∧
          r = t.readAs reply := by
  unfold read idToRead
  rcases accountId.filter fun id => id != "" with _ | id
  · exact yields_pure
  refine yields_ask_bind.trans ⟨?_, ?_⟩
  · rintro ⟨reply, es', rfl, h⟩
    refine ⟨reply, ?_⟩
    rcases reply with e | o <;> simp only [readAs] at h ⊢
    · split_ifs at h ⊢ <;> simpa [yields_pure] using h
    · simpa [yields_pure] using h
  · rintro ⟨reply, rfl, rfl⟩
    refine ⟨reply, [], rfl, ?_⟩
    rcases reply with e | o <;> simp only [readAs]
    · split_ifs <;> exact yields_pure.2 ⟨rfl, rfl⟩
    · exact yields_pure.2 ⟨rfl, rfl⟩

/-- The exchange is with a fatal action that fails before the change. -/
def isFatal : Exchange Request Request.Answer → Bool
  | ⟨.actBefore _ action _ _, .error _⟩ => action.criticality = .fatal
  | _ => false

/-- The calls of the actions of a chain before the change, in order, from a place on. -/
def callsFrom (t : Task) (object : Option RemoteObject) (place : Nat) (actions : List Action) :
    List Request :=
  actions.mapIdx fun i action => .actBefore (place + i) action t object

theorem callsFrom_cons {object : Option RemoteObject} {place : Nat} {action : Action}
    {rest : List Action} : t.callsFrom object place (action :: rest) =
      .actBefore place action t object :: t.callsFrom object (place + 1) rest := by
  simp only [callsFrom, List.mapIdx_cons, Nat.add_zero, Nat.add_right_comm _ 1, Nat.add_assoc]

theorem length_callsFrom {object : Option RemoteObject} {place : Nat} {actions : List Action} :
    (t.callsFrom object place actions).length = actions.length :=
  List.length_mapIdx

/-- The actions of a chain are called in order, up to the first one that fails fatally. If there is
such an action it stops the change, and else all are called. -/
structure ActedBefore (t : Task) (object : Option RemoteObject) (place : Nat)
    (actions : List Action) (es : ExecutionLog) (r : Except Fault Unit) : Prop where
  inOrder : es.map Exchange.request <+: t.callsFrom object place actions
  untilFatal : ∀ e ∈ es.dropLast, isFatal e = false
  outcome : (r = .ok () ∧ es.length = actions.length ∧ ∀ e ∈ es, isFatal e = false) ∨
    (∃ name message, r = .error (.actionFailed name message)) ∧ ∃ e ∈ es, isFatal e = true

section ActedBefore

variable {object : Option RemoteObject} {place : Nat} {action : Action} {actions rest : List Action}
  {r : Except Fault Unit}

theorem ActedBefore.cons {reply : (Request.actBefore place action t object).Answer}
    (hf : isFatal ⟨.actBefore place action t object, reply⟩ = false)
    (h : t.ActedBefore object (place + 1) rest es r) :
    t.ActedBefore object place (action :: rest) (⟨.actBefore place action t object, reply⟩ :: es)
      r where
  inOrder := by
    rw [List.map_cons, callsFrom_cons]
    exact (List.prefix_cons_inj _).2 h.inOrder
  untilFatal e he := by
    rcases es with _ | ⟨e', es⟩
    · cases he
    · rcases List.mem_cons.1 he with rfl | he
      · exact hf
      · exact h.untilFatal e he
  outcome := by
    rcases h.outcome with ⟨hr, hlength, hes⟩ | ⟨hr, e, he, hfe⟩
    · exact .inl ⟨hr, congrArg (· + 1) hlength, List.forall_mem_cons.2 ⟨hf, hes⟩⟩
    · exact .inr ⟨hr, e, List.mem_cons_of_mem _ he, hfe⟩

theorem actedBefore : ∀ {place : Nat} {actions : List Action} {es : ExecutionLog},
    Yields (t.runBefore object place actions) es r → t.ActedBefore object place actions es r
  | _, [], es, h => by
    obtain ⟨rfl, rfl⟩ := yields_pure.1 h
    exact ⟨by simp, by simp, by simp⟩
  | place, action :: rest, es, h => by
    obtain ⟨reply, es, rfl, hn⟩ := yields_ask_bind.1 h
    rcases reply with e | ⟨⟩
    · simp only at hn
      split_ifs at hn with hc
      · obtain ⟨rfl, rfl⟩ := yields_pure.1 hn
        exact ⟨by simp [callsFrom_cons], by simp, by simp [isFatal, hc]⟩
      · exact (actedBefore hn).cons (by simp [isFatal, hc])
    · exact (actedBefore hn).cons rfl

/-- Nothing else is asked for. -/
theorem ActedBefore.calls (h : t.ActedBefore object place actions es r) :
    ∀ e ∈ es, ∃ place action, e.request = .actBefore place action t object := by
  intro e he
  have hmem := h.inOrder.subset (List.mem_map_of_mem he)
  obtain ⟨i, hi, hcall⟩ := List.mem_mapIdx.1 hmem
  exact ⟨_, _, hcall.symm⟩

/-- Unless an action failed fatally, all were called. -/
theorem ActedBefore.eq_callsFrom (h : t.ActedBefore object place actions es r)
    (hes : ∀ e ∈ es, isFatal e = false) :
    es.map Exchange.request = t.callsFrom object place actions := by
  refine h.inOrder.eq_of_length ?_
  rcases h.outcome with ⟨-, hlength, -⟩ | ⟨-, e, he, hf⟩
  · rw [List.length_map, length_callsFrom, hlength]
  · simp [hes e he] at hf

end ActedBefore

/-- What a delete comes to when the object is there, by the directory's reply. -/
def verdict (t : Task) (object : RemoteObject) :
    Except StoreError (List String) → Except Fault Decision
  | .ok names =>
    if names.contains t.resource.key then .ok (t.converge (some object))
    else .ok (.delete object.uid)
  | .error (.subjectNotFound _ _) => .ok (.delete object.uid)
  | .error e => .error (.store e)

theorem decide_cases {object : Option RemoteObject} {r : Except Fault Decision}
    (h : Yields (t.decide object) es r) :
    (t.operation ≠ .delete ∧ es = [] ∧ r = .ok (t.converge object)) ∨
    (t.operation = .delete ∧ object = none ∧ es = [] ∧ r = .ok .nothing) ∨
    ∃ o reply, t.operation = .delete ∧ object = some o ∧
      es = [⟨.resourceNames t.subjectKind t.subjectKey, reply⟩] ∧ r = t.verdict o reply := by
  unfold decide at h
  rcases ho : t.operation <;> rw [ho] at h
  · exact .inl ⟨by simp, yields_pure.1 h⟩
  · exact .inl ⟨by simp, yields_pure.1 h⟩
  · rcases object with _ | o
    · exact .inr (.inl ⟨rfl, rfl, yields_pure.1 h⟩)
    · obtain ⟨reply, es, rfl, hn⟩ := yields_ask_bind.1 h
      refine .inr (.inr ⟨o, reply, rfl, rfl, ?_⟩)
      rcases reply with (_ | _ | _) | names <;> simp only [verdict] at hn ⊢
      · simpa [yields_pure] using hn
      · simpa [yields_pure] using hn
      · simpa [yields_pure] using hn
      · split_ifs at hn ⊢ <;> simpa [yields_pure] using hn

/-- The call that a decision leads to. -/
def request? (t : Task) : Decision → Option Request
  | .refuse _ => none
  | .nothing => none
  | .create attributes => some (.create t attributes)
  | .update uid attributes => some (.update t uid attributes)
  | .delete uid => some (.delete t uid)

/-- The exchange is with a target system that does what it is asked for. -/
def isAccepted : Exchange Request Request.Answer → Bool
  | ⟨.create _ _, .ok _⟩ => true
  | ⟨.update _ _ _, .ok _⟩ => true
  | ⟨.delete _ _, .ok _⟩ => true
  | _ => false

/-- A decision is refused, or asks for nothing, or for its one call; a call that is accepted counts
as a change. -/
theorem carryOut_cases {d : Decision} {r : Except Fault Bool}
    (h : Yields (t.carryOut d) es r) :
    (∃ names, d = .refuse names ∧ es = [] ∧ r = .error (.validation names)) ∨
    (d = .nothing ∧ es = [] ∧ r = .ok false) ∨
    ∃ e, t.request? d = some e.request ∧ es = [e] ∧
      ((isAccepted e ∧ r = .ok true) ∨
        isAccepted e = false ∧ ∃ error, r = .error (.ofConnector t.resource.key error)) := by
  unfold carryOut at h
  rcases d with names | _ | attributes | ⟨uid, attributes⟩ | uid
  · exact .inl ⟨names, rfl, yields_pure.1 h⟩
  · exact .inr (.inl ⟨rfl, yields_pure.1 h⟩)
  all_goals
    obtain ⟨reply, es, rfl, hn⟩ := yields_ask_bind.1 h
    obtain ⟨rfl, rfl⟩ := yields_pure.1 hn
    refine .inr (.inr ⟨_, rfl, rfl, ?_⟩)
    rcases reply with error | _
    · exact .inr ⟨rfl, error, rfl⟩
    · exact .inl ⟨rfl, rfl⟩

/-- The stages of the part that may change the target system, each in the run only when the ones
before it went well. -/
theorem propagate_cases {found : Bool} {actions : List Action} {object : Option RemoteObject}
    {r : Except Fault Bool} (h : Yields (t.propagate found actions) es (object, r)) :
    (found = false ∧ es = [] ∧ object = none ∧ r = .error (.connectorNotFound t.resource.key)) ∨
    found = true ∧ ∃ es₁ es₂ read, es = es₁ ++ es₂ ∧
      Yields (t.read .before t.accountIdBefore) es₁ read ∧
      ((∃ fault, read = .error fault ∧ es₂ = [] ∧ object = none ∧ r = .error fault) ∨
      read = .ok object ∧ ∃ es₃ es₄ acted, es₂ = es₃ ++ es₄ ∧
        t.ActedBefore object 0 actions es₃ acted ∧
        ((∃ fault, acted = .error fault ∧ es₄ = [] ∧ r = .error fault) ∨
        acted = .ok () ∧ ∃ es₅ es₆ decided, es₄ = es₅ ++ es₆ ∧
          Yields (t.decide object) es₅ decided ∧
          ((∃ fault, decided = .error fault ∧ es₆ = [] ∧ r = .error fault) ∨
          ∃ d, decided = .ok d ∧ Yields (t.carryOut d) es₆ r))) := by
  unfold propagate at h
  rcases found with _ | _
  · obtain ⟨rfl, hr⟩ := yields_pure.1 h
    obtain ⟨rfl, rfl⟩ := Prod.mk.inj hr
    exact .inl ⟨rfl, rfl, rfl, rfl⟩
  refine .inr ⟨rfl, ?_⟩
  obtain ⟨es₁, es₂, read, rfl, h₁, h₂⟩ := yields_bind.1 h
  refine ⟨es₁, es₂, read, rfl, h₁, ?_⟩
  rcases read with fault | read
  · obtain ⟨rfl, hr⟩ := yields_pure.1 h₂
    obtain ⟨rfl, rfl⟩ := Prod.mk.inj hr
    exact .inl ⟨fault, rfl, rfl, rfl, rfl⟩
  obtain ⟨es₃, es₄, acted, rfl, h₃, h₄⟩ := yields_bind.1 h₂
  rcases acted with fault | ⟨⟩
  · obtain ⟨rfl, hr⟩ := yields_pure.1 h₄
    obtain ⟨rfl, rfl⟩ := Prod.mk.inj hr
    exact .inr ⟨rfl, es₃, [], _, rfl, actedBefore h₃, .inl ⟨fault, rfl, rfl, rfl⟩⟩
  obtain ⟨es₅, es₆, decided, rfl, h₅, h₆⟩ := yields_bind.1 h₄
  rcases decided with fault | d
  · obtain ⟨rfl, hr⟩ := yields_pure.1 h₆
    obtain ⟨rfl, rfl⟩ := Prod.mk.inj hr
    exact .inr ⟨rfl, es₃, _, _, rfl, actedBefore h₃,
      .inr ⟨rfl, es₅, [], _, rfl, h₅, .inl ⟨fault, rfl, rfl, rfl⟩⟩⟩
  obtain ⟨es₇, es₈, r', rfl, h₇, h₈⟩ := yields_bind.1 h₆
  obtain ⟨rfl, hr⟩ := yields_pure.1 h₈
  obtain ⟨rfl, rfl⟩ := Prod.mk.inj hr
  exact .inr ⟨rfl, es₃, _, _, rfl, actedBefore h₃,
    .inr ⟨rfl, es₅, _, _, rfl, h₅, .inr ⟨d, rfl, by simpa using h₇⟩⟩⟩

end Task

/-- What is asked for when the change is over. -/
def Request.isConcluding : Request → Bool
  | .now => true
  | .newEventId => true
  | .read .after _ _ _ => true
  | .save _ => true
  | .append _ _ => true
  | .flush => true
  | .audit _ => true
  | .notify _ => true
  | .actAfter _ _ _ _ _ => true
  | _ => false

/-- What is asked of the store. -/
def Request.isOfStore : Request → Bool
  | .save _ => true
  | .append _ _ => true
  | .flush => true
  | _ => false

theorem Request.isOfStore_eq_false {r : Request} (h : !r.isConcluding) : r.isOfStore = false := by
  cases r <;> first | rfl | exact absurd h Bool.false_ne_true

namespace Task

variable {t : Task} {es : ExecutionLog}

theorem asks_runBefore {object : Option RemoteObject} :
    ∀ {place : Nat} {actions : List Action},
      (t.runBefore object place actions).Asks fun r => !r.isConcluding
  | _, [] => asks_pure
  | _, action :: _ => by
    refine asks_request_bind rfl fun reply => ?_
    rcases reply with e | ⟨⟩
    · by_cases hc : action.criticality = .fatal
      · simp only [hc, if_true]
        exact asks_pure
      · simp only [hc, if_false]
        exact asks_runBefore
    · exact asks_runBefore

/-- Up to the change nothing is asked for that comes after it. -/
theorem asks_propagate {found : Bool} {actions : List Action} :
    (t.propagate found actions).Asks fun r => !r.isConcluding := by
  unfold propagate
  split_ifs
  · exact asks_pure
  refine asks_bind (fun es read h e he => ?_) fun read => ?_
  · rw [yields_read] at h
    split at h
    · simp [h.1] at he
    · obtain ⟨reply, rfl, -⟩ := h
      rw [List.mem_singleton.1 he]
      rfl
  rcases read with fault | object
  · exact asks_pure
  refine asks_bind asks_runBefore fun acted => ?_
  rcases acted with fault | ⟨⟩
  · exact asks_pure
  refine asks_bind (fun es decided h e he => ?_) fun decided => ?_
  · rcases decide_cases h with ⟨-, rfl, -⟩ | ⟨-, -, rfl, -⟩ | ⟨o, reply, -, -, rfl, -⟩
    · simp at he
    · simp at he
    · rw [List.mem_singleton.1 he]
      rfl
  rcases decided with fault | d
  · exact asks_pure
  refine asks_bind (fun es r h e he => ?_) fun _ => asks_pure
  rcases carryOut_cases h with ⟨_, -, rfl, -⟩ | ⟨-, rfl, -⟩ | ⟨call, hcall, rfl, -⟩
  · simp at he
  · simp at he
  · rw [List.mem_singleton.1 he]
    rcases d with _ | _ | _ | _ | _ <;>
      simp only [request?, reduceCtorEq, Option.some.injEq] at hcall <;>
      rw [← hcall] <;> rfl

theorem asks_readAfter {settings : Settings} {found : Bool} :
    (t.readAfter settings found).Asks fun r => r.isConcluding && !r.isOfStore := by
  unfold readAfter
  split_ifs
  · refine asks_bind (fun es r h => ?_) fun r => ?_
    · rw [yields_read] at h
      split at h
      · simp [h.1]
      · obtain ⟨reply, rfl, -⟩ := h
        simp [Request.isConcluding, Request.isOfStore]
    · rcases r with _ | _ <;> exact asks_pure
  · exact asks_pure

/-- Registering saves the task, appends the execution and flushes, as long as nothing fails. The
execution gets its identifier only if nothing has failed. -/
theorem register_cases {execution r : Execution} (h : Yields (t.register execution) es r) :
    (∃ error, es = [⟨.save t, .error error⟩] ∧ r = execution) ∨
    (∃ error, es = [⟨.save t, .ok ()⟩, ⟨.append t execution, .error error⟩] ∧ r = execution) ∨
    (∃ id error, es = [⟨.save t, .ok ()⟩, ⟨.append t execution, .ok id⟩, ⟨.flush, .error error⟩] ∧
      r = execution) ∨
    ∃ id, es = [⟨.save t, .ok ()⟩, ⟨.append t execution, .ok id⟩, ⟨.flush, .ok ()⟩] ∧
      r = execution.withId id := by
  unfold register at h
  obtain ⟨saved, es, rfl, h₁⟩ := yields_ask_bind.1 h
  rcases saved with error | ⟨⟩
  · obtain ⟨rfl, rfl⟩ := yields_pure.1 h₁
    exact .inl ⟨error, rfl, rfl⟩
  obtain ⟨appended, es, rfl, h₂⟩ := yields_ask_bind.1 h₁
  rcases appended with error | id
  · obtain ⟨rfl, rfl⟩ := yields_pure.1 h₂
    exact .inr (.inl ⟨error, rfl, rfl⟩)
  obtain ⟨flushed, es, rfl, h₃⟩ := yields_ask_bind.1 h₂
  rcases flushed with error | ⟨⟩
  · obtain ⟨rfl, rfl⟩ := yields_pure.1 h₃
    exact .inr (.inr (.inl ⟨id, error, rfl, rfl⟩))
  · obtain ⟨rfl, rfl⟩ := yields_pure.1 h₃
    exact .inr (.inr (.inr ⟨id, rfl, rfl⟩))

theorem asks_register {execution : Execution} :
    (t.register execution).Asks fun r => r.isConcluding && r.isOfStore := by
  intro es r h
  rcases register_cases h with ⟨_, rfl, -⟩ | ⟨_, rfl, -⟩ | ⟨_, _, rfl, -⟩ | ⟨_, rfl, -⟩ <;>
    simp [Request.isConcluding, Request.isOfStore]

theorem asks_runAfter {execution : Execution} {object : Option RemoteObject} :
    ∀ {place : Nat} {actions : List Action},
      (t.runAfter execution object place actions).Asks fun r => r.isConcluding && !r.isOfStore
  | _, [] => asks_pure
  | _, _ :: _ => asks_request_bind rfl fun _ => asks_runAfter

theorem asks_tell {actions : List Action} {execution : Execution}
    {before after : Option RemoteObject} :
    (t.tell actions execution before after).Asks fun r => r.isConcluding && !r.isOfStore :=
  asks_request_bind rfl fun _ => asks_request_bind rfl fun _ => asks_request_bind rfl fun _ =>
    asks_request_bind rfl fun _ => asks_runAfter

/-- What an execution ends with is finished by its fault, and registered if that is called for. -/
theorem conclude_cases {settings : Settings} {found : Bool} {actions : List Action}
    {execution r : Execution} {before : Option RemoteObject} {fault : Option Fault}
    {attempted : Bool}
    (h : Yields (t.conclude settings found actions execution before fault attempted) es r) :
    ∃ now es₁ after es₂ es₃, es = ⟨.now, now⟩ :: (es₁ ++ (es₂ ++ es₃)) ∧
      Yields (t.readAfter settings found) es₁ after ∧
      (let status := ExecutionStatus.outcome t.mode fault.isNone
        let e := execution.finished status fault settings.maxReasonLength now
        if attempted && t.mustRegister status then Yields (t.register e) es₂ r
        else es₂ = [] ∧ r = e) ∧
      Yields (t.tell actions r before after) es₃ () := by
  unfold conclude at h
  obtain ⟨now, es, rfl, h₁⟩ := yields_ask_bind.1 h
  obtain ⟨es₁, es₂, after, rfl, ha, h₂⟩ := yields_bind.1 h₁
  simp only at h₂
  split_ifs at h₂ with hr
  all_goals
    obtain ⟨es₃, es₄, e, rfl, h₃, h₄⟩ := yields_bind.1 h₂
    obtain ⟨es₅, es₆, ⟨⟩, rfl, h₅, h₆⟩ := yields_bind.1 h₄
    obtain ⟨rfl, rfl⟩ := yields_pure.1 h₆
    refine ⟨now, es₁, after, es₃, es₅, by simp, ha, ?_, h₅⟩
    simp only [hr, if_true, Bool.false_eq_true, if_false]
  · exact h₃
  · exact yields_pure.1 h₃

theorem asks_conclude {settings : Settings} {found : Bool} {actions : List Action}
    {execution : Execution} {before : Option RemoteObject} {fault : Option Fault}
    {attempted : Bool} :
    (t.conclude settings found actions execution before fault attempted).Asks
      fun r => r.isConcluding := by
  intro es r h
  obtain ⟨now, es₁, after, es₂, es₃, rfl, h₁, h₂, h₃⟩ := conclude_cases h
  have hregistered : ∀ e ∈ es₂, e.request.isConcluding := by
    simp only at h₂
    split_ifs at h₂
    · exact fun e he => (Bool.and_eq_true_iff.1 (asks_register _ _ h₂ e he)).1
    · simp [h₂.1]
  simp only [List.forall_mem_cons, List.forall_mem_append]
  exact ⟨rfl, fun e he => (Bool.and_eq_true_iff.1 (asks_readAfter _ _ h₁ e he)).1, hregistered,
    fun e he => (Bool.and_eq_true_iff.1 (asks_tell _ _ h₃ e he)).1⟩

/-- A store gives an execution an identifier at most. -/
theorem eq_of_register {execution r : Execution} (h : Yields (t.register execution) es r) :
    ∃ id, r = { execution with id := id } := by
  rcases register_cases h with ⟨_, -, rfl⟩ | ⟨_, -, rfl⟩ | ⟨_, _, -, rfl⟩ | ⟨id, -, rfl⟩
  · exact ⟨_, rfl⟩
  · exact ⟨_, rfl⟩
  · exact ⟨_, rfl⟩
  · exact ⟨some id, rfl⟩

/-- What comes after the change first looks at the clock, to finish the execution, and then gives it
an identifier at most. -/
theorem eq_of_conclude {settings : Settings} {found : Bool} {actions : List Action}
    {execution r : Execution} {before : Option RemoteObject} {fault : Option Fault}
    {attempted : Bool}
    (h : Yields (t.conclude settings found actions execution before fault attempted) es r) :
    ∃ now rest id, es = ⟨.now, now⟩ :: rest ∧
      r = { execution.finished (.outcome t.mode fault.isNone) fault settings.maxReasonLength now with
        id := id } := by
  obtain ⟨now, es₁, after, es₂, es₃, rfl, -, h₂, -⟩ := conclude_cases h
  refine ⟨now, es₁ ++ (es₂ ++ es₃), ?_⟩
  simp only at h₂
  split_ifs at h₂
  · obtain ⟨id, rfl⟩ := eq_of_register h₂
    exact ⟨id, rfl, rfl⟩
  · exact ⟨_, rfl, h₂.2⟩

/-- An execution of the task that is over, with all that its fault says if it failed. -/
structure IsEnded (t : Task) (settings : Settings) (fault : Option Fault) (execution : Execution) :
    Prop where
  taskId : execution.taskId = t.id
  finish : execution.finish.isSome
  status : execution.status = .outcome t.mode fault.isNone
  message : execution.message =
    fault.map fun f => Execution.truncated settings.maxReasonLength f.shortReason
  diagnostic : execution.diagnostic = fault.map Fault.diagnostic
  failureKind : execution.failureKind = fault.map Fault.kind

theorem isEnded_of_conclude {settings : Settings} {found : Bool} {actions : List Action}
    {now : Calendar.Instant} {r : Execution} {before : Option RemoteObject} {fault : Option Fault}
    {attempted : Bool}
    (h : Yields (t.conclude settings found actions (.started t.id now) before fault attempted)
      es r) : t.IsEnded settings fault r := by
  obtain ⟨_, _, id, -, rfl⟩ := eq_of_conclude h
  rcases fault with _ | f <;> exact ⟨rfl, rfl, rfl, rfl, rfl, rfl⟩

/-- What becomes of an execution by what its change came to: it is refused, or over. -/
inductive ResultsIn (t : Task) (settings : Settings) :
    Except Fault Bool → Except Fault Execution → Prop where
  | refused (names : List String) :
      ResultsIn t settings (.error (.validation names)) (.error (.validation names))
  | concluded {attempted : Bool} {execution : Execution} (ended : t.IsEnded settings none execution) :
      ResultsIn t settings (.ok attempted) (.ok execution)
  | failed {fault : Fault} {execution : Execution} (hf : ∀ names, fault ≠ .validation names)
      (ended : t.IsEnded settings (some fault) execution) :
      ResultsIn t settings (.error fault) (.ok execution)

theorem ResultsIn.exists_failed {settings : Settings} {fault : Fault} {r : Except Fault Execution}
    (h : t.ResultsIn settings (.error fault) r) (hf : ∀ names, fault ≠ .validation names) :
    ∃ execution, r = .ok execution ∧ t.IsEnded settings (some fault) execution := by
  cases h with
  | refused names => exact absurd rfl (hf names)
  | failed _ ended => exact ⟨_, rfl, ended⟩

/-- An execution learns what it works with, may change the target system, and unless it was refused
concludes. -/
theorem execute_cases {settings : Settings} {r : Except Fault Execution}
    (h : Yields (t.execute settings) es r) :
    ∃ now actions found es₁ es₂ object outcome,
      es = ⟨.now, now⟩ :: ⟨.actions t.resource, actions⟩ :: ⟨.connector t.resource, found⟩ ::
        (es₁ ++ es₂) ∧
      Yields (t.propagate found actions) es₁ (object, outcome) ∧
      ((∃ names, outcome = .error (.validation names) ∧ es₂ = [] ∧
          r = .error (.validation names)) ∨
        ∃ fault attempted execution, r = .ok execution ∧
          Yields (t.conclude settings found actions (.started t.id now) object fault attempted)
            es₂ execution ∧
          ((outcome = .ok attempted ∧ fault = none) ∨
            attempted = true ∧ ∃ f, outcome = .error f ∧ fault = some f ∧
              ∀ names, f ≠ .validation names)) := by
  unfold execute at h
  obtain ⟨now, es, rfl, h₀⟩ := yields_ask_bind.1 h
  obtain ⟨actions, es, rfl, h₁⟩ := yields_ask_bind.1 h₀
  obtain ⟨found, es, rfl, h₂⟩ := yields_ask_bind.1 h₁
  obtain ⟨es₁, es₂, ⟨object, outcome⟩, rfl, h₃, h₄⟩ := yields_bind.1 h₂
  refine ⟨now, actions, found, es₁, es₂, object, outcome, rfl, h₃, ?_⟩
  simp only at h₄
  split at h₄
  · exact .inl ⟨_, rfl, yields_pure.1 h₄⟩
  · rename_i fault hv
    obtain ⟨es₅, es₆, execution, rfl, h₅, h₆⟩ := yields_bind.1 h₄
    obtain ⟨rfl, rfl⟩ := yields_pure.1 h₆
    exact .inr ⟨some fault, true, execution, rfl, by simpa using h₅,
      .inr ⟨rfl, fault, rfl, rfl, hv⟩⟩
  · rename_i attempted
    obtain ⟨es₅, es₆, execution, rfl, h₅, h₆⟩ := yields_bind.1 h₄
    obtain ⟨rfl, rfl⟩ := yields_pure.1 h₆
    exact .inr ⟨none, attempted, execution, rfl, by simpa using h₅, .inl ⟨rfl, rfl⟩⟩

end Task

end Provisioning
