import Provisioning.Proofs.Histories
import Provisioning.Proofs.Submissions

/-!
# Settling what was submitted

An execution that is submitted, or not, waits for a report. Reports come one after the other, each
on the execution that is current. As long as none of them settles anything the execution stays as it
is (`heard_of_isReportable`); the first that does makes another execution, which waits for nothing
(`isReportable_heard`). So what comes of an execution is settled once, if it was in two phases, and
never again (`execute_settles_once`).
-/

namespace Provisioning

open Program

namespace Execution

variable {e : Execution} {n : Notice}

/-- The execution that is current after some reports. -/
def heard (e : Execution) (ns : List Notice) : Execution :=
  e.handled (ns.map .report)

theorem heard_append (ns ns' : List Notice) : e.heard (ns ++ ns') = (e.heard ns).heard ns' := by
  rw [heard, List.map_append, handled_append]
  rfl

theorem heard_cons (n : Notice) (ns : List Notice) :
    e.heard (n :: ns) = (e.next (.report n)).heard ns :=
  rfl

/-- A report that settles something is not waited for any more. -/
theorem isReportable_next : (e.next (.report n)).status.isReportable ↔
    e.status.isReportable ∧ n.outcome.isSettled = false := by
  rw [next_report]
  split_ifs with h
  · rw [settledBy, h.2]
    rcases ExecutionStatus.isSettled_iff.1 h.2 with ho | ho <;>
      simp [ho, ExecutionStatus.isReportable]
  · rw [← Bool.not_eq_true]
    tauto

/-- An execution still waits exactly if it did and no report has settled it. -/
theorem isReportable_heard : ∀ {ns : List Notice} {e : Execution},
    (e.heard ns).status.isReportable ↔
      e.status.isReportable ∧ ∀ n ∈ ns, n.outcome.isSettled = false
  | [], e => by simp [heard, handled]
  | n :: ns, e => by
    rw [heard_cons, isReportable_heard, isReportable_next, List.forall_mem_cons, and_assoc]

/-- An execution that still waits is the one that it was. -/
theorem heard_of_isReportable : ∀ {ns : List Notice} {e : Execution},
    (e.heard ns).status.isReportable → e.heard ns = e
  | [], _, _ => rfl
  | n :: ns, e, h => by
    rw [heard_cons] at h ⊢
    have hn : n.outcome.isSettled = false := (isReportable_next.1 (isReportable_heard.1 h).1).2
    rw [heard_of_isReportable h, next_report, if_neg (by simp [hn])]

theorem heard_concat (ns : List Notice) :
    e.heard (ns ++ [n]) = (e.heard ns).next (.report n) :=
  heard_append ns [n]

end Execution

namespace Task

/-- What a task in two phases comes to is settled by the first report of success or failure, and in
one phase by none. That report makes an execution that is over and tells of the task what was
reported; all others are refused and change nothing. -/
theorem execute_settles_once (world : Respondent Request Request.Answer) (t : Task)
    (settings : Settings) {e : Execution}
    (hr : ((t.execute settings).trace world).1 = .ok e) :
    e.taskId = t.id ∧ (e.status = .submitted ∨ e.status = .unsubmitted ↔ t.mode = .twoPhases) ∧
      ∀ (before : List Notice) (n : Notice),
        let current := e.heard before
        let answer := current.report n.outcome n.message n.time
        ((∃ r, answer = .ok r) ↔ (e.status = .submitted ∨ e.status = .unsubmitted) ∧
            (n.outcome = .success ∨ n.outcome = .failure) ∧
            ∀ m ∈ before, ¬(m.outcome = .success ∨ m.outcome = .failure)) ∧
          (∀ r, answer = .ok r → current = e ∧ e.heard (before ++ [n]) = r ∧
            r.taskId = e.taskId ∧ r.status = n.outcome ∧ r.message = n.message ∧
            r.finish = some n.time) ∧
          ∀ fault, answer = .error fault →
            fault = .invalidTransition current.status n.outcome ∧
              e.heard (before ++ [n]) = current := by
  have hy : Yields (t.execute settings) ((t.execute settings).trace world).2 (.ok e) :=
    hr ▸ yields_trace world _
  obtain ⟨fault, ended, -⟩ := (execute_ends hy).isEnded
  simp only [← ExecutionStatus.isReportable_iff, ← ExecutionStatus.isSettled_iff]
  refine ⟨ended.taskId, ?_, fun before n => ?_⟩
  · rw [ended.status, ExecutionStatus.isReportable_outcome]
  have haccepted : (e.heard before).status.isReportable ∧ n.outcome.isSettled ↔
      e.status.isReportable ∧ n.outcome.isSettled ∧ ∀ m ∈ before, ¬m.outcome.isSettled := by
    simp only [Execution.isReportable_heard, Bool.not_eq_true]
    tauto
  refine ⟨?_, fun r hr => ?_, fun fault hf => ?_⟩
  · rw [← haccepted]
    simp [Execution.report_eq_ok]
  · obtain ⟨hset, rfl⟩ := Execution.report_eq_ok.1 hr
    have hsame : e.heard before = e := Execution.heard_of_isReportable hset.1
    rw [Execution.heard_concat, Execution.next_report, if_pos hset, hsame]
    exact ⟨rfl, rfl, rfl, rfl, rfl, rfl⟩
  · rw [Execution.report_eq] at hf
    rw [Execution.heard_concat, Execution.next_report]
    split_ifs at hf ⊢ with hset
    exact ⟨(Except.error.inj hf).symm, rfl⟩

/-- What was submitted is not settled by the report that it was not, but by the next one, that it
was a success; a failure comes too late then. -/
theorem execute_settles_once_created :
    let run := ((toNewLater .create).execute .default).trace (oneObject (named "old") (named "new"))
    let withdrawn : Notice := ⟨.unsubmitted, none, ⟨1, 0⟩⟩
    let applied : Notice := ⟨.success, some "applied by target", ⟨2, 0⟩⟩
    ∃ e r, run.1 = .ok e ∧ e.status = .submitted ∧ e.heard [withdrawn] = e ∧
      e.report .success (some "applied by target") ⟨2, 0⟩ = .ok r ∧
      r.status = .success ∧ r.message = some "applied by target" ∧
      e.heard [withdrawn, applied] = r ∧
      ∀ r', r.report .failure none ⟨3, 0⟩ ≠ .ok r' := by
  intro run withdrawn applied
  obtain ⟨e, hr, hs⟩ : ∃ e, run.1 = .ok e ∧ e.status = .submitted := ⟨_, rfl, rfl⟩
  have h := (execute_settles_once (oneObject (named "old") (named "new")) (toNewLater .create)
    .default hr).2.2
  have hfirst := h [withdrawn] applied
  obtain ⟨r, hanswer⟩ := hfirst.1.2 ⟨.inl hs, .inl rfl, by simp [withdrawn]⟩
  obtain ⟨hcurrent, hheard, -, hstatus, hmessage, -⟩ := hfirst.2.1 r hanswer
  refine ⟨e, r, hr, hs, hcurrent, hcurrent ▸ hanswer, hstatus, hmessage, hheard, fun r' hr' => ?_⟩
  -- The execution that is current now is the one of the accepted report.
  have hlate := (h [withdrawn, applied] ⟨.failure, none, ⟨3, 0⟩⟩).1.1 ⟨r', hheard ▸ hr'⟩
  exact hlate.2.2 applied (by simp) (.inl rfl)

end Task

end Provisioning
