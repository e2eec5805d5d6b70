import Provisioning.Proofs.ExecutionRuns

/-!
# What the log of an execution says about its change

A log holds the call that asks for the change and what came before it: the connector, the read of
the object, the actions, and the question to the directory. All of it is added up as `Evidence`, so
that the log of an execution says what its stages say, one after the other (`evidence_append`). What
comes after the change says nothing of this (`evidence_of_isConcluding`).
-/

namespace Provisioning

open Program

/-- Whether a request asks a target system for a change. -/
def Request.isWrite : Request → Bool
  | .create _ _ => true
  | .update _ _ _ => true
  | .delete _ _ => true
  | _ => false

/-- Whether a request reads the object as it is before the change. -/
def Request.isReadBefore : Request → Bool
  | .read .before _ _ _ => true
  | _ => false

/-- Whether a request calls an action before the change. -/
def Request.isActBefore : Request → Bool
  | .actBefore _ _ _ _ => true
  | _ => false

/-- Whether a request asks the directory which resources a subject has. -/
def Request.isQuestion : Request → Bool
  | .resourceNames _ _ => true
  | _ => false

theorem isWrite_of_isAccepted {e : Exchange Request Request.Answer} (h : Task.isAccepted e) :
    e.request.isWrite := by
  obtain ⟨r, reply⟩ := e
  rcases r with _ | _ | _ | _ | _ | _ | _ | _ | _ | _ | _ | _ | _ | _ | _ | _ <;>
    first | rfl | simp [Task.isAccepted] at h

namespace ExecutionLog

/-- The calls that ask for a change, in order. -/
def writes (es : ExecutionLog) : List Request :=
  (es.map Exchange.request).filter Request.isWrite

/-- The calls that read the object before the change, in order. -/
def readsBefore (es : ExecutionLog) : List Request :=
  (es.map Exchange.request).filter Request.isReadBefore

/-- The calls of actions before the change, with their replies, in order. -/
def calledBefore (es : ExecutionLog) : ExecutionLog :=
  es.filter fun e => e.request.isActBefore

/-- What the directory was asked, in order. -/
def questions (es : ExecutionLog) : List Request :=
  (es.map Exchange.request).filter Request.isQuestion

/-- The calls up to the change, by what they are for. -/
def upToChange (es : ExecutionLog) : List Request :=
  readsBefore es ++ ((calledBefore es).map Exchange.request ++ (questions es ++ writes es))

/-- The actions of the resource, as they were learnt. -/
def chain (es : ExecutionLog) : List Action :=
  (es.findSome? fun
    | ⟨.actions _, actions⟩ => some actions
    | _ => none).getD []

/-- Whether the resource turned out to have a connector. -/
def hasConnector (es : ExecutionLog) : Bool :=
  es.any fun
    | ⟨.connector _, found⟩ => found
    | _ => false

/-- The reply to the read before the change, if there was one. -/
def readBefore? (es : ExecutionLog) : Option (Except ConnectorError (Option RemoteObject)) :=
  es.findSome? fun
    | ⟨.read .before _ _ _, reply⟩ => some reply
    | _ => none

/-- The object that was read before the change. A failed read gives none. -/
def objectBefore (es : ExecutionLog) : Option RemoteObject :=
  match readBefore? es with
  | some (.ok object) => object
  | _ => none

/-- Whether the read before the change timed out. -/
def timedOut (es : ExecutionLog) : Bool :=
  match readBefore? es with
  | some (.error (.timeout _)) => true
  | _ => false

/-- Whether a fatal action failed before the change. -/
def failedFatally (es : ExecutionLog) : Bool :=
  es.any Task.isFatal

/-- The reply of the directory, if it was asked. -/
def directoryReply? (es : ExecutionLog) : Option (Except StoreError (List String)) :=
  es.findSome? fun
    | ⟨.resourceNames _ _, reply⟩ => some reply
    | _ => none

/-- Whether the execution was stopped before it could come to a change. -/
def stopped (es : ExecutionLog) : Bool :=
  !hasConnector es || timedOut es || failedFatally es

theorem stopped_eq_false {es : ExecutionLog} : stopped es = false ↔
    hasConnector es ∧ timedOut es = false ∧ failedFatally es = false := by
  simp [stopped, and_assoc]

theorem writes_append {es₁ es₂ : ExecutionLog} :
    writes (es₁ ++ es₂) = writes es₁ ++ writes es₂ := by
  simp [writes]

theorem writes_append_eq_nil {es₁ es₂ : ExecutionLog} (h₁ : writes es₁ = [])
    (h₂ : writes es₂ = []) : writes (es₁ ++ es₂) = [] := by
  rw [writes_append, h₁, h₂, List.nil_append]

theorem mem_writes {es : ExecutionLog} {e : Exchange Request Request.Answer} (he : e ∈ es)
    (hw : e.request.isWrite) : e.request ∈ writes es :=
  List.mem_filter.2 ⟨List.mem_map_of_mem he, hw⟩

theorem not_isWrite_of_writes {es : ExecutionLog} {e : Exchange Request Request.Answer}
    (h : writes es = []) (he : e ∈ es) : e.request.isWrite = false := by
  by_contra hw
  have hmem := mem_writes he (by simpa using hw)
  rw [h] at hmem
  simp at hmem

theorem not_isAccepted_of_writes {es : ExecutionLog} {e : Exchange Request Request.Answer}
    (h : writes es = []) (he : e ∈ es) : Task.isAccepted e = false := by
  by_contra ha
  have hw := isWrite_of_isAccepted (by simpa using ha)
  simp [not_isWrite_of_writes h he] at hw

theorem objectBefore_eq_some {es : ExecutionLog} {o : RemoteObject} :
    objectBefore es = some o ↔ readBefore? es = some (.ok (some o)) := by
  rw [objectBefore]
  rcases readBefore? es with _ | (_ | _) <;> simp

theorem timedOut_of_error {es : ExecutionLog} {e : ConnectorError}
    (h : readBefore? es = some (.error e)) : timedOut es = e.isTimeout := by
  rw [timedOut, h]
  cases e <;> rfl

theorem timedOut_congr {es₁ es₂ : ExecutionLog} (h : readBefore? es₁ = readBefore? es₂) :
    timedOut es₁ = timedOut es₂ := by
  rw [timedOut, h, timedOut]

theorem objectBefore_congr {es₁ es₂ : ExecutionLog} (h : readBefore? es₁ = readBefore? es₂) :
    objectBefore es₁ = objectBefore es₂ := by
  rw [objectBefore, h, objectBefore]

/-- Two logs say the same about the change. Whether there is a connector is left open. -/
structure SameChange (es₁ es₂ : ExecutionLog) : Prop where
  writes : es₁.writes = es₂.writes
  readsBefore : es₁.readsBefore = es₂.readsBefore
  readBefore? : es₁.readBefore? = es₂.readBefore?
  failedFatally : es₁.failedFatally = es₂.failedFatally
  directoryReply? : es₁.directoryReply? = es₂.directoryReply?
  calledBefore : es₁.calledBefore = es₂.calledBefore
  questions : es₁.questions = es₂.questions

section SameChange

variable {es₁ es₂ : ExecutionLog}

theorem SameChange.timedOut (h : SameChange es₁ es₂) : es₁.timedOut = es₂.timedOut :=
  timedOut_congr h.readBefore?

theorem SameChange.objectBefore (h : SameChange es₁ es₂) : es₁.objectBefore = es₂.objectBefore :=
  objectBefore_congr h.readBefore?

theorem SameChange.upToChange (h : SameChange es₁ es₂) : es₁.upToChange = es₂.upToChange := by
  rw [ExecutionLog.upToChange, h.readsBefore, h.calledBefore, h.questions, h.writes,
    ExecutionLog.upToChange]

end SameChange

/-- All that a log says about the change. -/
structure Evidence where
  writes : List Request := []
  readsBefore : List Request := []
  hasConnector : Bool := false
  readBefore? : Option (Except ConnectorError (Option RemoteObject)) := none
  failedFatally : Bool := false
  directoryReply? : Option (Except StoreError (List String)) := none
  calledBefore : ExecutionLog := []
  questions : List Request := []

def evidence (es : ExecutionLog) : Evidence :=
  ⟨writes es, readsBefore es, hasConnector es, readBefore? es, failedFatally es,
    directoryReply? es, calledBefore es, questions es⟩

/-- What two logs say, one after the other. -/
def Evidence.add (a b : Evidence) : Evidence :=
  ⟨a.writes ++ b.writes, a.readsBefore ++ b.readsBefore, a.hasConnector || b.hasConnector,
    a.readBefore?.or b.readBefore?, a.failedFatally || b.failedFatally,
    a.directoryReply?.or b.directoryReply?, a.calledBefore ++ b.calledBefore,
    a.questions ++ b.questions⟩

theorem evidence_append (es₁ es₂ : ExecutionLog) :
    evidence (es₁ ++ es₂) = (evidence es₁).add (evidence es₂) := by
  simp [evidence, Evidence.add, writes, readsBefore, hasConnector, readBefore?, failedFatally,
    directoryReply?, calledBefore, questions, List.findSome?_append]

theorem SameChange.of_evidence {es₁ es₂ : ExecutionLog} {found : Bool}
    (h : evidence es₁ = { evidence es₂ with hasConnector := found }) : SameChange es₁ es₂ where
  writes := congrArg Evidence.writes h
  readsBefore := congrArg Evidence.readsBefore h
  readBefore? := congrArg Evidence.readBefore? h
  failedFatally := congrArg Evidence.failedFatally h
  directoryReply? := congrArg Evidence.directoryReply? h
  calledBefore := congrArg Evidence.calledBefore h
  questions := congrArg Evidence.questions h

theorem Evidence.nothing_add (a : Evidence) : Evidence.add {} a = a := by
  simp [add]

theorem Evidence.add_nothing (a : Evidence) : a.add {} = a := by
  simp [add]

theorem evidence_of_forall {es : ExecutionLog} (h : ∀ e ∈ es, evidence [e] = {}) :
    evidence es = {} := by
  induction es with
  | nil => rfl
  | cons e es ih =>
    obtain ⟨he, hes⟩ := List.forall_mem_cons.1 h
    rw [← List.singleton_append, evidence_append, he, ih hes, Evidence.nothing_add]

theorem evidence_of_isConcluding {es : ExecutionLog} (h : ∀ e ∈ es, e.request.isConcluding) :
    evidence es = {} := by
  refine evidence_of_forall fun e he => ?_
  obtain ⟨r, reply⟩ := e
  have hr : r.isConcluding := h _ he
  rcases r with _ | _ | _ | _ | ⟨_ | _, _, _, _⟩ | _ | _ | _ | _ | _ | _ | _ | _ | _ | _ | _ <;>
    first | exact absurd hr Bool.false_ne_true | rfl

/-- The calls of actions before the change are all that the log of these holds, and one of them may
have failed fatally. -/
theorem evidence_of_isActBefore {es : ExecutionLog} (h : ∀ e ∈ es, e.request.isActBefore) :
    evidence es = { failedFatally := failedFatally es, calledBefore := es } := by
  induction es with
  | nil => rfl
  | cons e es ih =>
    obtain ⟨he, hes⟩ := List.forall_mem_cons.1 h
    have hfirst : evidence [e] = { failedFatally := failedFatally [e], calledBefore := [e] } := by
      obtain ⟨r, reply⟩ := e
      rcases r with _ | _ | _ | _ | _ | _ | _ | _ | _ | _ | _ | _ | _ | _ | _ | _ <;>
        first | exact absurd he Bool.false_ne_true | rfl
    rw [← List.singleton_append, evidence_append, hfirst, ih hes]
    simp [Evidence.add, failedFatally]

theorem evidence_of_isWrite {e : Exchange Request Request.Answer} (h : e.request.isWrite) :
    evidence [e] = { writes := [e.request] } := by
  obtain ⟨r, reply⟩ := e
  rcases r with _ | _ | _ | _ | _ | _ | _ | _ | _ | _ | _ | _ | _ | _ | _ | _ <;>
    first | exact absurd h Bool.false_ne_true | rfl

/-- Four logs of which the first one reads the object, the second calls actions, the third asks the
directory and the fourth asks for the change. -/
structure Staged (es₁ es₂ es₃ es₄ : ExecutionLog) : Prop where
  read : evidence es₁ = { readsBefore := es₁.map Exchange.request, readBefore? := readBefore? es₁ }
  acted : evidence es₂ = { failedFatally := failedFatally es₂, calledBefore := es₂ }
  asked : evidence es₃ =
    { directoryReply? := directoryReply? es₃, questions := es₃.map Exchange.request }
  written : evidence es₄ = { writes := es₄.map Exchange.request }

section Staged

variable {es₁ es₂ es₃ es₄ : ExecutionLog}

/-- One after the other they say all that each of them says. -/
theorem Staged.evidence_append (h : Staged es₁ es₂ es₃ es₄) :
    evidence (es₁ ++ (es₂ ++ (es₃ ++ es₄))) =
      ⟨es₄.map Exchange.request, es₁.map Exchange.request, false, readBefore? es₁,
        failedFatally es₂, directoryReply? es₃, es₂, es₃.map Exchange.request⟩ := by
  rw [ExecutionLog.evidence_append, ExecutionLog.evidence_append, ExecutionLog.evidence_append,
    h.read, h.acted, h.asked, h.written]
  simp [Evidence.add]

theorem Staged.map_request (h : Staged es₁ es₂ es₃ es₄) :
    (es₁ ++ (es₂ ++ (es₃ ++ es₄))).map Exchange.request =
      upToChange (es₁ ++ (es₂ ++ (es₃ ++ es₄))) := by
  obtain ⟨hw, hr, -, -, -, -, hc, hq⟩ := Evidence.mk.inj h.evidence_append
  rw [upToChange, hw, hr, hc, hq]
  simp only [List.map_append]

end Staged

end ExecutionLog

end Provisioning
