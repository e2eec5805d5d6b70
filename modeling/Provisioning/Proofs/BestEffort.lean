import Provisioning.Proofs.Retry

/-!
# What cannot change the outcome

All that an execution comes to follows from what it was told up to its change. Two logs
`AgreeOnChange` if what was asked for up to there has the same reply in both; then the changes are
the same, and the executions differ by their identifier at most, whatever became of the read after
the change, of the store, of the sinks and of the actions after the change (`execute_agree`).
-/

namespace Provisioning

open Program ExecutionLog

namespace ExecutionLog

/-- What was asked for in both logs before the change was over has the same reply in both. -/
def AgreeOnChange (es₁ es₂ : ExecutionLog) : Prop :=
  ∀ (r : Request) (a₁ a₂ : r.Answer), !r.isConcluding → ⟨r, a₁⟩ ∈ es₁ → ⟨r, a₂⟩ ∈ es₂ → a₁ = a₂

/-- Two worlds agree if they always reply alike to what is asked for up to the change. -/
theorem agreeOnChange_trace {α : Type} {world₁ world₂ : Respondent Request Request.Answer}
    {p : ExecutionProgram α}
    (alike : ∀ past₁ past₂ (r : Request), !r.isConcluding → world₁ past₁ r = world₂ past₂ r) :
    AgreeOnChange (p.trace world₁).2 (p.trace world₂).2 := by
  intro r a₁ a₂ hr h₁ h₂
  rw [trace_eq_resume] at h₁ h₂
  obtain ⟨past₁, rfl⟩ := (answered_resume world₁ p []).reply_of_mem h₁
  obtain ⟨past₂, rfl⟩ := (answered_resume world₂ p []).reply_of_mem h₂
  exact alike past₁ past₂ r hr

/-- What the clock said, in order. -/
def clock (es : ExecutionLog) : List Calendar.Instant :=
  es.filterMap fun
    | ⟨.now, now⟩ => some now
    | _ => none

end ExecutionLog

namespace Task

variable {t : Task} {es : ExecutionLog} {settings : Settings} {r : Except Fault Execution}

/-- The clock is not looked at while the target system may be changed. -/
theorem clock_of_propagate {found : Bool} {actions : List Action}
    {x : Option RemoteObject × Except Fault Bool} (h : Yields (t.propagate found actions) es x) :
    clock es = [] := by
  refine List.filterMap_eq_nil_iff.2 fun e he => ?_
  have hc := asks_propagate _ _ h e he
  obtain ⟨r, reply⟩ := e
  rcases r with _ | _ | _ | _ | _ | _ | _ | _ | _ | _ | _ | _ | _ | _ | _ | _ <;>
    first | rfl | exact absurd hc (by simp [Request.isConcluding])

/-- The fault that a change came to, if it came to one. -/
def faultOf : Except Fault Bool → Option Fault
  | .ok _ => none
  | .error fault => some fault

/-- What the change came to, with the times that the clock gave first, is all that an execution says
but for its identifier. -/
theorem execute_outcome (h : Yields (t.execute settings) es r) :
    ∃ start actions found es₁ es₂ object outcome,
      es = [⟨.now, start⟩, ⟨.actions t.resource, actions⟩, ⟨.connector t.resource, found⟩] ++
        (es₁ ++ es₂) ∧
      Yields (t.propagate found actions) es₁ (object, outcome) ∧ writes es = writes es₁ ∧
      ((∃ names, outcome = .error (.validation names) ∧ r = .error (.validation names)) ∨
        (∀ names, outcome ≠ .error (.validation names)) ∧ ∃ finish id,
          (clock es).take 2 = [start, finish] ∧
          r = .ok { (Execution.started t.id start).finished
            (.outcome t.mode (faultOf outcome).isNone) (faultOf outcome) settings.maxReasonLength
            finish with id := id }) := by
  obtain ⟨start, actions, found, es₁, es₂, object, outcome, he, hp, hr⟩ := execute_cases h
  let es₀ : ExecutionLog :=
    [⟨.now, start⟩, ⟨.actions t.resource, actions⟩, ⟨.connector t.resource, found⟩]
  have hes : es = es₀ ++ (es₁ ++ es₂) := he
  have hw (h₂ : writes es₂ = []) : writes es = writes es₁ := by
    rw [hes, writes_append, writes_append, h₂, List.append_nil]
    rfl
  refine ⟨start, actions, found, es₁, es₂, object, outcome, hes, hp, ?_⟩
  rcases hr with ⟨names, rfl, rfl, rfl⟩ | ⟨fault, attempted, execution, rfl, hc, hf⟩
  · exact ⟨hw rfl, .inl ⟨names, rfl, rfl⟩⟩
  refine ⟨hw (Evidence.mk.inj (evidence_of_isConcluding (asks_conclude _ _ hc))).1, .inr ?_⟩
  obtain ⟨finish, rest, id, rfl, rfl⟩ := eq_of_conclude hc
  have hclock : (clock es).take 2 = [start, finish] := by
    have h₁ := clock_of_propagate hp
    rw [clock] at h₁
    rw [hes, clock, List.filterMap_append, List.filterMap_append, h₁]
    rfl
  rcases hf with ⟨rfl, rfl⟩ | ⟨-, f, rfl, rfl, hf⟩
  · exact ⟨by simp, finish, id, hclock, rfl⟩
  · exact ⟨by simpa using hf, finish, id, hclock, rfl⟩

/-- Two executions of a task that are told the same up to their change, whatever they are told after
it, ask for the same changes. They are rejected for the same fault, or their outcomes are the same;
if the clock gave both of them the same times, nothing but the identifier tells them apart. -/
theorem execute_agree (world₁ world₂ : Respondent Request Request.Answer) (t : Task)
    (settings : Settings)
    (agree : AgreeOnChange ((t.execute settings).trace world₁).2
      ((t.execute settings).trace world₂).2) :
    let run₁ := (t.execute settings).trace world₁
    let run₂ := (t.execute settings).trace world₂
    writes run₁.2 = writes run₂.2 ∧
      (∀ fault, run₁.1 = .error fault ↔ run₂.1 = .error fault) ∧
      ∀ e₁ e₂, run₁.1 = .ok e₁ → run₂.1 = .ok e₂ →
        e₁.taskId = e₂.taskId ∧ e₁.status = e₂.status ∧ e₁.message = e₂.message ∧
          e₁.diagnostic = e₂.diagnostic ∧ e₁.failureKind = e₂.failureKind ∧
          ((clock run₁.2).take 2 = (clock run₂.2).take 2 → e₂ = { e₁ with id := e₂.id }) := by
  intro run₁ run₂
  obtain ⟨start, actions, found, es₁, es₂, object, outcome, he, hp, hw, hr⟩ :=
    execute_outcome (yields_trace world₁ (t.execute settings))
  obtain ⟨start', actions', found', es₁', es₂', object', outcome', he', hp', hw', hr'⟩ :=
    execute_outcome (yields_trace world₂ (t.execute settings))
  rw [he, he'] at agree
  obtain rfl : actions = actions' := agree (.actions t.resource) _ _ rfl (by simp) (by simp)
  obtain rfl : found = found' := agree (.connector t.resource) _ _ rfl (by simp) (by simp)
  -- Up to the end of the change both runs are told the same, and so are one run.
  obtain ⟨rfl, hx⟩ := hp.unique hp' asks_propagate fun r a₁ a₂ hr h₁ h₂ =>
    agree r a₁ a₂ hr (by simp [h₁]) (by simp [h₂])
  obtain ⟨rfl, rfl⟩ := Prod.mk.inj hx
  refine ⟨hw.trans hw'.symm, ?_⟩
  rcases hr with ⟨names, rfl, hr⟩ | ⟨hok, finish, id, hclock, hr⟩ <;>
    rcases hr' with ⟨names', hn, hr'⟩ | ⟨hok', finish', id', hclock', hr'⟩
  · obtain rfl := Fault.validation.inj (Except.error.inj hn)
    simp only [run₁, run₂, hr, hr']
    simp
  · exact absurd rfl (hok' names)
  · exact absurd hn (hok names')
  · simp only [run₁, run₂, hr, hr', hclock, hclock']
    refine ⟨by simp, ?_⟩
    rintro _ _ ⟨⟩ ⟨⟩
    have hsame (hc : [start, finish] = [start', finish']) : start = start' ∧ finish = finish' := by
      simpa using hc
    rcases outcome with fault | attempted
    all_goals
      refine ⟨rfl, rfl, rfl, rfl, rfl, fun hc => ?_⟩
      obtain ⟨rfl, rfl⟩ := hsame hc
      rfl

/-- A target system with one object, and an action that is called with each execution. -/
def attended (object : RemoteObject) : Respondent Request Request.Answer
  | _, .actions _ => [⟨"mail", .fatal⟩]
  | past, request => oneObject object object past request

/-- A world in which everything fails once the change is over. -/
def failingLater (world : Respondent Request Request.Answer) : Respondent Request Request.Answer
  | _, .read .after _ _ _ => .error .authenticationFailed
  | _, .save _ => .error (.unavailable "no space left")
  | _, .audit _ => .error (.sinkUnavailable "offline")
  | _, .notify _ => .error (.sinkUnavailable "offline")
  | _, .actAfter _ _ _ _ _ => .error (.rejected "too late")
  | past, request => world past request

theorem failingLater_eq {world : Respondent Request Request.Answer} {r : Request}
    {past : List (Exchange Request Request.Answer)} (hr : !r.isConcluding) :
    failingLater world past r = world past r := by
  rcases r with _ | _ | _ | _ | ⟨_ | _, _, _, _⟩ | _ | _ | _ | _ | _ | _ | _ | _ | _ | _ | _ <;>
    first | rfl | exact absurd hr Bool.false_ne_true

theorem attended_eq {object : RemoteObject} {past₁ past₂ : List (Exchange Request Request.Answer)}
    {r : Request} : attended object past₁ r = attended object past₂ r := by
  rcases r with _ | _ | _ | _ | _ | _ | _ | _ | _ | _ | _ | _ | _ | _ | _ | _ <;>
    simp only [attended, oneObject, ite_self]

/-- The task to make what is there into the object named `new`, whose executions are all kept. -/
def toNewKept : Task :=
  { toNew none with resource := (Resource.bare "ldap" "directory").withTrace .all }

/-- The object is created, whether the execution is kept and told to everyone or not. -/
theorem execute_agree_failingLater :
    let run := (toNewKept.execute .default).trace (attended (named "old"))
    let run' := (toNewKept.execute .default).trace (failingLater (attended (named "old")))
    AgreeOnChange run.2 run'.2 ∧ writes run.2 = [.create toNewKept toNewKept.wanted] ∧
      writes run'.2 = writes run.2 ∧
      ∃ execution, run.1 = .ok execution ∧ execution.status = .success ∧
        execution.id = some ⟨0⟩ ∧ run'.1 = .ok { execution with id := none } := by
  intro run run'
  have agree : AgreeOnChange run.2 run'.2 := agreeOnChange_trace fun _ _ _ hr =>
    attended_eq.trans (failingLater_eq hr).symm
  obtain ⟨hw, -, hsame⟩ := execute_agree _ _ toNewKept .default agree
  obtain ⟨execution, hr, hs, hid⟩ : ∃ execution, run.1 = .ok execution ∧
      execution.status = .success ∧ execution.id = some ⟨0⟩ := ⟨_, rfl, rfl, rfl⟩
  obtain ⟨execution', hr', hid'⟩ : ∃ execution, run'.1 = .ok execution ∧ execution.id = none :=
    ⟨_, rfl, rfl⟩
  have hclock : (clock run.2).take 2 = (clock run'.2).take 2 := rfl
  obtain ⟨-, -, -, -, -, heq⟩ := hsame execution execution' hr hr'
  rw [heq hclock, hid'] at hr'
  exact ⟨agree, rfl, hw.symm, execution, hr, hs, hid, hr'⟩

end Task

end Provisioning
