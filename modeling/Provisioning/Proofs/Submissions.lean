import Provisioning.Proofs.Endings
import Provisioning.Proofs.Retry

/-!
# Submissions

In two phases an execution that does not fail ends as submitted, and the later report says what came
of it. Unless the object was as it should be already, a call was accepted on which there can be a
report; else nothing was written, and the execution waits for a report on nothing
(`execute_submitted`). In one phase such an execution is a success.
-/

namespace Provisioning

open Program ExecutionLog

namespace Task

/-- In two phases an execution that succeeded is submitted. A call of it was accepted exactly if the
object was not as it should be already; an execution that found it so has written nothing and ends
with the status of its mode. -/
theorem execute_submitted (world : Respondent Request Request.Answer) (t : Task)
    (settings : Settings) {execution : Execution}
    (hr : ((t.execute settings).trace world).1 = .ok execution) :
    let es : ExecutionLog := ((t.execute settings).trace world).2
    (execution.status = .submitted → t.mode = .twoPhases ∧
        ((∃ e ∈ es, isAccepted e) ↔ ¬t.IsSettled (objectBefore es) (directoryReply? es))) ∧
      (stopped es = false → t.IsSettled (objectBefore es) (directoryReply? es) →
        writes es = [] ∧ execution.status = .outcome t.mode true) := by
  intro es
  have hy : Yields (t.execute settings) es (.ok execution) := hr ▸ yields_trace world _
  have hsettled {e} (he : e ∈ es) (hw : e.request.isWrite) :
      ¬t.IsSettled (objectBefore es) (directoryReply? es) := (not_mustRefuse_of_isWrite hy he hw).2
  have hends := execute_ends hy
  refine ⟨fun hs => ?_, fun hs right => ?_⟩
  · have hmode : execution.status = .outcome t.mode true → t.mode = .twoPhases := fun ho => by
      rw [hs] at ho
      rcases hm : t.mode <;> simp [hm, ExecutionStatus.outcome] at ho ⊢
    cases hends with
    | settled _ right ended =>
      refine ⟨hmode ended.status, ⟨?_, fun hn => absurd right hn⟩⟩
      rintro ⟨e, he, accepted⟩
      exact hsettled he (isWrite_of_isAccepted accepted)
    | changed _ made accepted ended =>
      refine ⟨hmode ended.status, ⟨fun _ => ?_, fun _ => ⟨_, made, accepted⟩⟩⟩
      exact hsettled made (isWrite_of_isAccepted accepted)
    | failed _ ended =>
      have ho := ended.status
      rcases hm : t.mode <;> simp [hs, hm, ExecutionStatus.outcome] at ho
  · obtain ⟨hw, _, hr, hstatus⟩ := execute_isSettled hy right
    rw [← Except.ok.inj hr, hs] at hstatus
    exact ⟨hw, hstatus⟩

/-- The task to make what is there into the object named `new`, in two phases. -/
def toNewLater (operation : Operation) : Task :=
  { toNew none with operation := operation, mode := .twoPhases }

/-- The object that was created is on its way. -/
theorem execute_submitted_created :
    let t := toNewLater .create
    let run := (t.execute .default).trace (oneObject (named "old") (named "new"))
    (∃ execution, run.1 = .ok execution ∧ execution.status = .submitted) ∧
      ¬t.IsSettled (objectBefore run.2) (directoryReply? run.2) ∧ ∃ e ∈ run.2, isAccepted e := by
  intro t run
  obtain ⟨execution, hr, hs⟩ :
      ∃ execution, run.1 = .ok execution ∧ execution.status = .submitted := ⟨_, rfl, rfl⟩
  have hsettled : ¬t.IsSettled (objectBefore run.2) (directoryReply? run.2) := by
    rintro (⟨hop, -⟩ | ⟨o, ho, -⟩)
    · simp [t, toNewLater] at hop
    · have hnone : objectBefore run.2 = none := rfl
      simp [hnone] at ho
  have h := ((execute_submitted (oneObject (named "old") (named "new")) t .default hr).1 hs).2
  exact ⟨⟨execution, hr, hs⟩, hsettled, h.2 hsettled⟩

/-- Neither the object that is as it should be is written, nor the one that is gone, and both
executions are submitted. -/
theorem submitted_unwritten :
    let updated := ((toNewLater .update).execute .default).trace
      (oneObject (named "new") (named "new"))
    let deleted := ((toNewLater .delete).execute .default).trace
      (oneObject (named "old") (named "old"))
    (∃ execution, updated.1 = .ok execution ∧ execution.status = .submitted) ∧
      writes updated.2 = [] ∧ (∀ e ∈ updated.2, isAccepted e = false) ∧
      (∃ execution, deleted.1 = .ok execution ∧ execution.status = .submitted) ∧
      writes deleted.2 = [] ∧ ∀ e ∈ deleted.2, isAccepted e = false := by
  exact ⟨⟨_, rfl, rfl⟩, rfl, fun _ => not_isAccepted_of_writes rfl, ⟨_, rfl, rfl⟩, rfl,
    fun _ => not_isAccepted_of_writes rfl⟩

end Task

end Provisioning
