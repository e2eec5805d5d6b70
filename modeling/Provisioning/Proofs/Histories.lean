import Provisioning.Proofs.ExecutionRuns

/-!
# Histories of executions

After it was started an execution is finished, gets an identifier, and is reported on; a history
lists what was done, in any order and number. A report is checked against the status and makes an
execution of its own, and an identifier changes nothing else. Finishing checks nothing. So what is
over keeps its account all along a history, and changes of status are those that are meant to be,
exactly if finishing again only repeats what is there; and no status is set that cannot follow
exactly if there is no finishing again at all (`history_lawful_iff`). What the execution of a task
returns was finished once (`execute_isStrict`).
-/

namespace Provisioning

open Calendar Program

/-- The report of an outcome, and when it comes. -/
structure Notice where
  outcome : ExecutionStatus
  message : Option String
  time : Instant

/-- What can be done with an execution. -/
inductive Handling where
  | finish (status : ExecutionStatus) (fault : Option Fault) (maxReasonLength : Nat) (now : Instant)
  | identify (id : ExecutionId)
  | report (notice : Notice)

namespace Handling

/-- What comes of an execution. -/
def result (e : Execution) : Handling → Except Fault Execution
  | finish status fault maxReasonLength now => .ok (e.finished status fault maxReasonLength now)
  | identify id => .ok (e.withId id)
  | report n => e.report n.outcome n.message n.time

/-- Whether the result is an execution of its own. -/
def isReport : Handling → Bool
  | report _ => true
  | _ => false

def setsStatus : Handling → Bool
  | identify _ => false
  | _ => true

/-- The status that an execution is finished with. -/
def ending? : Handling → Option ExecutionStatus
  | finish status _ _ _ => some status
  | _ => none

end Handling

/-- The statuses that an execution is finished with in a history. -/
def endings (hs : List Handling) : List ExecutionStatus :=
  hs.filterMap Handling.ending?

namespace ExecutionStatus

variable {s next : ExecutionStatus}

theorem isReportable_iff : s.isReportable ↔ s = .submitted ∨ s = .unsubmitted := by
  cases s <;> simp [isReportable]

theorem isSettled_iff : s.isSettled ↔ s = .success ∨ s = .failure := by
  cases s <;> simp [isSettled]

theorem canBecome_of_isReportable (h : s.isReportable) : s.canBecome next = next.isSettled := by
  rcases isReportable_iff.1 h with rfl | rfl <;> rfl

theorem not_canBecome_self (s : ExecutionStatus) : s.canBecome s = false := by
  cases s <;> rfl

theorem canBecome_created : created.canBecome next ↔ next ≠ .created := by
  simp [canBecome]

theorem isReportable_outcome {mode : Mode} {succeeded : Bool} :
    (outcome mode succeeded).isReportable ↔ mode = .twoPhases := by
  cases mode <;> cases succeeded <;> simp [outcome, isReportable]

theorem outcome_ne_created {mode : Mode} {succeeded : Bool} : outcome mode succeeded ≠ created := by
  cases mode <;> cases succeeded <;> simp [outcome]

end ExecutionStatus

namespace Execution

variable {e e' : Execution} {h : Handling} {hs : List Handling} {taskId : TaskId} {now : Instant}

/-- The execution that is current after something was done. What is refused leaves it as it is. -/
def next (e : Execution) (h : Handling) : Execution :=
  match h.result e with
  | .ok e' => e'
  | .error _ => e

/-- The execution that is current at the end of a history. -/
def handled (e : Execution) (hs : List Handling) : Execution :=
  hs.foldl next e

theorem handled_append (hs hs' : List Handling) :
    e.handled (hs ++ hs') = (e.handled hs).handled hs' :=
  List.foldl_append

/-- Both give the same account of how it went. -/
structure SameAccount (e e' : Execution) : Prop where
  status : e'.status = e.status
  message : e'.message = e.message
  diagnostic : e'.diagnostic = e.diagnostic
  failureKind : e'.failureKind = e.failureKind

/-- What is over keeps its account, but for a report, which makes another execution. -/
def IsKept (e : Execution) (h : Handling) : Prop :=
  e.finish.isSome → h.isReport = false → ∀ e', h.result e = .ok e' → e.SameAccount e'

/-- What is over keeps its account, and another status is one that can follow. -/
structure IsLawful (e : Execution) (h : Handling) : Prop where
  kept : e.IsKept h
  follows : ∀ e', h.result e = .ok e' → e'.status ≠ e.status → e.status.canBecome e'.status

/-- What is over keeps its account, and any status that is set is one that can follow. -/
structure IsStrict (e : Execution) (h : Handling) : Prop where
  kept : e.IsKept h
  follows : h.setsStatus → ∀ e', h.result e = .ok e' → e.status.canBecome e'.status

/-- All along a history something holds of the current execution and of what is done. -/
def Along (P : Execution → Handling → Prop) (e : Execution) : List Handling → Prop
  | [] => True
  | h :: hs => P e h ∧ Along P (e.next h) hs

theorem along_iff {P : Execution → Handling → Prop} :
    ∀ {hs : List Handling} {e : Execution},
      Along P e hs ↔ ∀ before h after, hs = before ++ h :: after → P (e.handled before) h
  | [], e => by simp [Along]
  | h :: hs, e => by
    rw [Along, along_iff]
    constructor
    · rintro ⟨hh, hhs⟩ before h' after heq
      rcases before with _ | ⟨b, before⟩
      · obtain ⟨rfl, -⟩ := List.cons_eq_cons.1 heq
        exact hh
      · obtain ⟨rfl, rfl⟩ := List.cons_eq_cons.1 heq
        exact hhs before h' after rfl
    · intro hall
      refine ⟨hall [] h hs rfl, fun before h' after heq => ?_⟩
      exact hall (h :: before) h' after (by rw [heq]; rfl)

section Step

variable {status : ExecutionStatus} {fault : Option Fault} {maxReasonLength : Nat}

@[simp] theorem finished_status : (e.finished status fault maxReasonLength now).status = status := by
  cases fault <;> rfl

@[simp] theorem finished_finish :
    (e.finished status fault maxReasonLength now).finish = some now := by
  cases fault <;> rfl

/-- The execution that a report makes. -/
def settledBy (e : Execution) (n : Notice) : Execution :=
  ⟨none, e.taskId, n.outcome, n.time, some n.time, n.message, none, none⟩

/-- A report is accepted exactly if it settles something that waits for it. -/
theorem report_eq (e : Execution) (n : Notice) : e.report n.outcome n.message n.time =
    if e.status.isReportable ∧ n.outcome.isSettled then .ok (e.settledBy n)
    else .error (.invalidTransition e.status n.outcome) := by
  rw [report]
  by_cases hr : e.status.isReportable
  · simp [hr, ExecutionStatus.canBecome_of_isReportable hr, settledBy]
  · simp [hr]

theorem report_eq_ok {n : Notice} : e.report n.outcome n.message n.time = .ok e' ↔
    (e.status.isReportable ∧ n.outcome.isSettled) ∧ e' = e.settledBy n := by
  rw [report_eq]
  split_ifs with h
  · rw [Except.ok.injEq, eq_comm, and_iff_right h]
  · simp only [false_iff]
    exact fun hn => h hn.1

theorem next_report (e : Execution) (n : Notice) : e.next (.report n) =
    if e.status.isReportable ∧ n.outcome.isSettled then e.settledBy n else e := by
  rw [next, Handling.result, report_eq]
  split_ifs <;> rfl

/-- Finishing again repeats what an execution says already. -/
def Repeats (e : Execution) : Handling → Prop
  | .finish status fault maxReasonLength _ => status = e.status ∧ ∀ f, fault = some f →
      e.message = some (truncated maxReasonLength f.shortReason) ∧
        e.diagnostic = some f.diagnostic ∧ e.failureKind = some f.kind
  | _ => True

theorem sameAccount_finished (later : Instant) :
    e.SameAccount (e.finished status fault maxReasonLength later) ↔
      e.Repeats (.finish status fault maxReasonLength later) := by
  rcases fault with _ | f
  · exact ⟨fun h => ⟨h.status, by simp⟩, fun h => ⟨h.1, rfl, rfl, rfl⟩⟩
  · constructor
    · rintro ⟨hs, hm, hd, hk⟩
      refine ⟨hs, fun g hg => ?_⟩
      obtain rfl := Option.some.inj hg
      exact ⟨hm.symm, hd.symm, hk.symm⟩
    · rintro ⟨hs, hf⟩
      obtain ⟨hm, hd, hk⟩ := hf f rfl
      exact ⟨hs, hm.symm, hd.symm, hk.symm⟩

/-- Whatever an identifier or a report does is lawful. -/
theorem isStrict_of_ending? (h : Handling) (he : h.ending? = none) : e.IsStrict h := by
  rcases h with _ | id | n
  · simp [Handling.ending?] at he
  · refine ⟨?_, by simp [Handling.setsStatus]⟩
    rintro - - e' hr
    obtain rfl := Except.ok.inj hr
    exact ⟨rfl, rfl, rfl, rfl⟩
  · refine ⟨by simp [IsKept, Handling.isReport], ?_⟩
    rintro - e' hr
    obtain ⟨⟨hreportable, hsettled⟩, rfl⟩ := report_eq_ok.1 hr
    rw [ExecutionStatus.canBecome_of_isReportable hreportable]
    exact hsettled

end Step

/-- The execution was started, and nothing has come of it yet. -/
structure IsFresh (e : Execution) : Prop where
  finish : e.finish = none
  status : e.status = .created

theorem isFresh_started : (started taskId now).IsFresh :=
  ⟨rfl, rfl⟩

theorem IsFresh.next (hf : e.IsFresh) (he : h.ending? = none) : (e.next h).IsFresh := by
  rcases h with _ | id | n
  · simp [Handling.ending?] at he
  · exact ⟨hf.finish, hf.status⟩
  · rw [next_report, hf.status, if_neg (by simp [ExecutionStatus.isReportable])]
    exact hf

/-- What is over stays so, and what is finished is over. -/
theorem finish_next (ho : e.finish.isSome ∨ h.ending? ≠ none) : (e.next h).finish.isSome := by
  rcases h with ⟨status, fault, length, now⟩ | id | n
  · exact (congrArg Option.isSome finished_finish).trans rfl
  · exact ho.resolve_right (not_not_intro rfl)
  · rw [next_report]
    split_ifs
    · rfl
    · exact ho.resolve_right (not_not_intro rfl)

theorem IsFresh.handled : ∀ {hs : List Handling} {e : Execution}, e.IsFresh → endings hs = [] →
    (e.handled hs).IsFresh
  | [], _, hf, _ => hf
  | h :: hs, e, hf, he => by
    obtain ⟨hh, hhs⟩ := List.forall_mem_cons.1 (List.filterMap_eq_nil_iff.1 he)
    exact (hf.next hh).handled (List.filterMap_eq_nil_iff.2 hhs)

theorem finish_handled : ∀ {hs : List Handling} {e : Execution},
    e.finish.isSome ∨ endings hs ≠ [] → (e.handled hs).finish.isSome
  | [], _, ho => ho.resolve_right (not_not_intro rfl)
  | h :: hs, e, ho => by
    refine finish_handled (e := e.next h) ?_
    rcases he : h.ending? with _ | status
    · rw [endings, List.filterMap_cons_none he] at ho
      exact ho.imp_left fun ho => finish_next (.inl ho)
    · exact .inl (finish_next (.inr (by simp [he])))

/-- Before it is over, an execution can be finished with any status but that of one just created. -/
theorem IsFresh.isLawful (hf : e.IsFresh) : e.IsLawful h where
  kept ho := by simp [hf.finish] at ho
  follows e' _ hne := by
    rw [hf.status] at hne ⊢
    exact ExecutionStatus.canBecome_created.2 hne

theorem IsFresh.isStrict_finish (hf : e.IsFresh) {status : ExecutionStatus} {fault : Option Fault}
    {maxReasonLength : Nat} :
    e.IsStrict (.finish status fault maxReasonLength now) ↔ status ≠ .created := by
  rw [← ExecutionStatus.canBecome_created, ← hf.status]
  constructor
  · intro hs
    simpa using hs.follows rfl _ rfl
  · intro hc
    refine ⟨hf.isLawful.kept, ?_⟩
    rintro - e' hr
    obtain rfl := Except.ok.inj hr
    rwa [finished_status]

theorem IsStrict.isLawful (hs : e.IsStrict h) : e.IsLawful h where
  kept := hs.kept
  follows e' hr hne := by
    rcases h with _ | id | _
    · exact hs.follows rfl e' hr
    · obtain rfl := Except.ok.inj hr
      exact absurd rfl hne
    · exact hs.follows rfl e' hr

/-- What is over can only be finished again to say the same. -/
theorem isLawful_of_over (ho : e.finish.isSome) : e.IsLawful h ↔ e.Repeats h := by
  rcases h with ⟨status, fault, length, now⟩ | id | n
  · rw [← sameAccount_finished now]
    constructor
    · exact fun hl => hl.kept ho rfl _ rfl
    · intro hs
      refine ⟨fun _ _ e' hr => ?_, fun e' hr hne => ?_⟩
      · obtain rfl := Except.ok.inj hr
        exact hs
      · obtain rfl := Except.ok.inj hr
        exact absurd hs.status hne
  · exact iff_of_true (isStrict_of_ending? (.identify id) rfl).isLawful trivial
  · exact iff_of_true (isStrict_of_ending? (.report n) rfl).isLawful trivial

/-- No status follows itself, so what is over cannot be finished again at all. -/
theorem isStrict_of_over (ho : e.finish.isSome) : e.IsStrict h ↔ h.ending? = none := by
  refine ⟨fun hs => ?_, isStrict_of_ending? h⟩
  rcases h with ⟨status, fault, length, now⟩ | _ | _
  · have hstatus := (hs.kept ho rfl _ rfl).status
    have hfollows := hs.follows rfl _ rfl
    rw [hstatus, ExecutionStatus.not_canBecome_self] at hfollows
    exact absurd hfollows Bool.false_ne_true
  · rfl
  · rfl

theorem along_isStrict_of_over : ∀ {hs : List Handling} {e : Execution}, e.finish.isSome →
    (Along IsStrict e hs ↔ endings hs = [])
  | [], _, _ => iff_of_true trivial rfl
  | h :: hs, e, ho => by
    rw [Along, isStrict_of_over ho, along_isStrict_of_over (finish_next (.inl ho))]
    simp [endings, List.filterMap_eq_nil_iff]

/-- Along the history of what was started all is strict exactly if it is finished once at most, and
not as just created. -/
theorem IsFresh.along_isStrict : ∀ {hs : List Handling} {e : Execution}, e.IsFresh →
    (Along IsStrict e hs ↔
      endings hs = [] ∨ ∃ status, status ≠ .created ∧ endings hs = [status])
  | [], _, _ => iff_of_true trivial (.inl rfl)
  | .finish status fault length now :: hs, e, hf => by
    have ho : (e.next (.finish status fault length now)).finish.isSome :=
      finish_next (.inr (by simp [Handling.ending?]))
    rw [Along, hf.isStrict_finish, along_isStrict_of_over ho]
    simp [endings, Handling.ending?, eq_comm]
  | .identify id :: hs, e, hf => by
    rw [Along, and_iff_right (isStrict_of_ending? _ rfl), (hf.next rfl).along_isStrict]
    rfl
  | .report n :: hs, e, hf => by
    rw [Along, and_iff_right (isStrict_of_ending? _ rfl), (hf.next rfl).along_isStrict]
    rfl

/-- Along the history of what was started all is lawful exactly if finishing it again only repeats
what it says already. -/
theorem IsFresh.along_isLawful (hf : e.IsFresh) :
    Along IsLawful e hs ↔ ∀ before h after, hs = before ++ h :: after → endings before ≠ [] →
      (e.handled before).Repeats h := by
  rw [along_iff]
  refine forall₄_congr fun before h after _ => ?_
  by_cases he : endings before = []
  · exact iff_of_true (hf.handled he).isLawful fun hn => absurd he hn
  · rw [isLawful_of_over (finish_handled (.inr he))]
    exact ⟨fun hr _ => hr, fun hr => hr he⟩

/-- Whatever is done with an execution after it was started, what is over keeps its account, and
another status is one that can follow, exactly if finishing it again only repeats what it says
already. Every status that is set can follow the last exactly if an execution is moreover finished
only once, and not as just created. -/
theorem history_lawful_iff (taskId : TaskId) (now : Instant) (hs : List Handling) :
    let e := started taskId now
    (Along IsLawful e hs ↔ ∀ before h after, hs = before ++ h :: after → endings before ≠ [] →
        (e.handled before).Repeats h) ∧
      (Along IsStrict e hs ↔
        endings hs = [] ∨ ∃ status, status ≠ .created ∧ endings hs = [status]) :=
  ⟨isFresh_started.along_isLawful, isFresh_started.along_isStrict⟩

/-- A success can be finished again as a failure, and what was just started as just created. -/
theorem finished_again :
    let e := started ⟨1⟩ ⟨0, 0⟩
    let success := Handling.finish .success none 1000 ⟨1, 0⟩
    let failure := Handling.finish .failure (some (.connectorNotFound "ldap")) 1000 ⟨2, 0⟩
    let created := Handling.finish .created none 1000 ⟨1, 0⟩
    let ended := e.handled [success]
    let again := e.handled [success, failure]
    let unmoved := e.handled [created]
    (ended.finish.isSome ∧ ended.status = .success ∧ again.status = .failure ∧
        ended.message = none ∧ again.message.isSome ∧ ended.diagnostic = none ∧
        again.diagnostic.isSome ∧ ended.failureKind = none ∧ again.failureKind = some .remote ∧
        ended.status.canBecome again.status = false ∧ ¬Along IsLawful e [success, failure]) ∧
      (unmoved.finish.isSome ∧ unmoved.status = .created ∧
        e.status.canBecome unmoved.status = false ∧ ¬Along IsStrict e [created]) := by
  refine ⟨⟨rfl, rfl, rfl, rfl, rfl, rfl, rfl, rfl, rfl, rfl, fun h => ?_⟩,
    ⟨rfl, rfl, rfl, fun h => ?_⟩⟩
  · exact absurd (h.2.1.kept rfl rfl _ rfl).status (by decide)
  · exact absurd (h.1.follows rfl _ rfl) (by decide)

end Execution

namespace Task

variable {t : Task} {es : ExecutionLog} {settings : Settings} {execution : Execution}

/-- What the execution of a task returns was finished once, with an outcome of its mode. -/
theorem exists_history (h : Yields (t.execute settings) es (.ok execution)) :
    ∃ now hs succeeded, execution = (Execution.started t.id now).handled hs ∧
      endings hs = [.outcome t.mode succeeded] := by
  obtain ⟨now, actions, found, es₁, es₂, object, outcome, -, -, h⟩ := execute_cases h
  obtain ⟨_, -, -, hr⟩ | ⟨fault, attempted, e, hr, hc, -⟩ := h
  · simp at hr
  obtain rfl := Except.ok.inj hr
  obtain ⟨later, _, id, -, rfl⟩ := eq_of_conclude hc
  let finish := Handling.finish (.outcome t.mode fault.isNone) fault settings.maxReasonLength later
  rcases id with _ | id
  · refine ⟨now, [finish], fault.isNone, ?_, rfl⟩
    rcases fault with _ | f <;> rfl
  · exact ⟨now, [finish, .identify id], fault.isNone, rfl, rfl⟩

/-- What the execution of a task returns keeps its account, unless it is finished again. -/
theorem execute_isStrict (h : Yields (t.execute settings) es (.ok execution)) :
    ∃ now hs, execution = (Execution.started t.id now).handled hs ∧
      ∀ later, endings later = [] →
        Execution.Along Execution.IsStrict (.started t.id now) (hs ++ later) := by
  obtain ⟨now, hs, succeeded, rfl, he⟩ := exists_history h
  refine ⟨now, hs, rfl, fun later hl => ?_⟩
  rw [Execution.isFresh_started.along_isStrict, endings, List.filterMap_append]
  exact .inr ⟨_, ExecutionStatus.outcome_ne_created, by
    rw [← endings, ← endings, he, hl, List.append_nil]⟩

end Task

end Provisioning
