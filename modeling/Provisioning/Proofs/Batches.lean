import Provisioning.Execution.Run
import Provisioning.Proofs.Runs

/-!
# Batches

The executions that a batch would make, if none stopped it, are `attempts`. The first of them that
fails on a resource with priority stops it: the exchanges of the batch are those up to there, and
the report accounts for every task in order, as executed or rejected up to there and as not
attempted after that (`resume_executeAll`, `executeAll_accounts`).
-/

namespace Provisioning

open Program

/-- An execution of a task of a batch, with all its exchanges. -/
structure Attempt where
  task : Task
  result : Except Fault Execution
  log : List (Exchange Request Request.Answer)

namespace Attempt

/-- What a report says of the task. -/
def status (a : Attempt) : TaskStatus where
  taskId := a.task.id
  resource := a.task.resource.key
  outcome :=
    match a.result with
    | .ok execution => .executed execution.status
    | .error _ => .rejected
  message :=
    match a.result with
    | .ok execution => execution.message
    | .error fault => some fault.shortReason

/-- Whether the task failed or was rejected on a resource with priority. -/
def stops (a : Attempt) : Bool :=
  a.status.isFailure && a.task.resource.priority

end Attempt

/-- The execution of a task in a world where something was exchanged before. -/
def attempt (world : Respondent Request Request.Answer) (settings : Settings)
    (past : List (Exchange Request Request.Answer)) (t : Task) : Attempt :=
  ⟨t, ((t.execute settings).resume world past).1, ((t.execute settings).resume world past).2⟩

/-- The executions of all tasks, each after the exchanges of those before it. -/
def attempts (world : Respondent Request Request.Answer) (settings : Settings) :
    List (Exchange Request Request.Answer) → List Task → List Attempt
  | _, [] => []
  | past, t :: ts =>
    let a := attempt world settings past t
    a :: attempts world settings (past ++ a.log) ts

/-- What a report says of a task that was left out after the failure of a resource. -/
def Task.notAttempted (t : Task) (failed : String) : TaskStatus :=
  ⟨t.id, t.resource.key, .notAttempted,
    some ("Not attempted because of failure on priority resource " ++ failed)⟩

/-- What a report says of all tasks, of which those after the first stop are not attempted. -/
def accounts : List Attempt → List TaskStatus
  | [] => []
  | a :: as =>
    a.status ::
      if a.stops then as.map fun b => b.task.notAttempted a.task.resource.key else accounts as

namespace Report

theorem recordIn_eq {report : Report} {a : Attempt} :
    a.task.recordIn report a.result = ⟨report.statuses ++ [a.status]⟩ := by
  obtain ⟨t, _ | _, log⟩ := a <;> rfl

theorem foldl_addNotAttempted {failed : String} : ∀ {ts : List Task} {report : Report},
    ts.foldl (fun r skipped => r.addNotAttempted skipped failed) report =
      ⟨report.statuses ++ ts.map fun t => t.notAttempted failed⟩
  | [], _ => by simp
  | t :: ts, report => by
    rw [List.foldl_cons, foldl_addNotAttempted, List.map_cons]
    exact congrArg _ (List.append_assoc _ _ _)

end Report

section Accounts

variable {as : List Attempt}

theorem hasFailed_eq {a : Attempt} : Task.hasFailed a.result = a.status.isFailure := by
  obtain ⟨t, _ | _, log⟩ := a <;> rfl

theorem map_accounts : ∀ {as : List Attempt},
    (accounts as).map (fun s => (s.taskId, s.resource)) =
      as.map fun a => (a.task.id, a.task.resource.key)
  | [] => rfl
  | a :: as => by
    rw [accounts, List.map_cons, List.map_cons]
    split_ifs
    · rw [List.map_map]
      rfl
    · rw [map_accounts]
      rfl

theorem findIdx_stops {a : Attempt} :
    (a :: as).findIdx Attempt.stops + 1 =
      if a.stops then 1 else as.findIdx Attempt.stops + 1 + 1 := by
  rw [List.findIdx_cons]
  cases a.stops <;> rfl

theorem take_accounts : ∀ {as : List Attempt},
    (accounts as).take (as.findIdx Attempt.stops + 1) =
      (as.take (as.findIdx Attempt.stops + 1)).map Attempt.status
  | [] => rfl
  | a :: as => by
    rw [accounts, findIdx_stops]
    split_ifs
    · rfl
    · rw [List.take_succ_cons, List.take_succ_cons, take_accounts, List.map_cons]

theorem notAttempted_of_mem_drop_accounts {s : TaskStatus} : ∀ {as : List Attempt},
    s ∈ (accounts as).drop (as.findIdx Attempt.stops + 1) → s.outcome = .notAttempted
  | [], h => by simp [accounts] at h
  | a :: as, h => by
    rw [accounts, findIdx_stops] at h
    split_ifs at h
    · obtain ⟨b, -, rfl⟩ := List.mem_map.1 h
      rfl
    · exact notAttempted_of_mem_drop_accounts h

/-- No task is left out but after a failure. -/
theorem any_isFailure_accounts {s : TaskStatus} (hs : s.outcome = .notAttempted) :
    ∀ {as : List Attempt}, s ∈ accounts as → (accounts as).any TaskStatus.isFailure
  | [], h => by simp [accounts] at h
  | a :: as, h => by
    rw [accounts] at h ⊢
    rw [List.any_cons, Bool.or_eq_true]
    split_ifs at h ⊢ with hstops
    · exact .inl (Bool.and_eq_true_iff.1 hstops).1
    · rcases List.mem_cons.1 h with rfl | h
      · obtain ⟨t, _ | _, log⟩ := a <;> simp [Attempt.status] at hs
      · exact .inr (any_isFailure_accounts hs h)

end Accounts

namespace Task

variable {world : Respondent Request Request.Answer} {settings : Settings}

/-- Every task is attempted once, in order. -/
theorem map_attempts {β : Type} (world : Respondent Request Request.Answer) (settings : Settings)
    (f : Task → β) : ∀ (past : List (Exchange Request Request.Answer)) (ts : List Task),
      (attempts world settings past ts).map (fun a => f a.task) = ts.map f
  | _, [] => rfl
  | _, _ :: ts => congrArg _ (map_attempts world settings f _ ts)

/-- A batch attempts its first task, and goes on with the others unless that stops it. -/
theorem resume_executeAll_cons {t : Task} {ts : List Task} {report : Report}
    {past : List (Exchange Request Request.Answer)} :
    (executeAll settings report (t :: ts)).resume world past =
      let a := attempt world settings past t
      if a.stops then
        (⟨report.statuses ++ [a.status] ++ ts.map fun t' => t'.notAttempted t.resource.key⟩, a.log)
      else
        let rest := (executeAll settings ⟨report.statuses ++ [a.status]⟩ ts).resume world
          (past ++ a.log)
        (rest.1, a.log ++ rest.2) := by
  let a := attempt world settings past t
  have hfailed : hasFailed ((t.execute settings).resume world past).1 = a.status.isFailure :=
    hasFailed_eq (a := a)
  have hrecord : t.recordIn report ((t.execute settings).resume world past).1 =
      ⟨report.statuses ++ [a.status]⟩ := Report.recordIn_eq (a := a)
  rw [executeAll, resume_bind, hfailed, hrecord]
  show _ = ite (a.status.isFailure && t.resource.priority) _ _
  split_ifs
  · simp only [Report.foldl_addNotAttempted, pure, resume, List.append_nil]
    rfl
  · rfl

/-- A batch adds to the report what it accounts for, and exchanges what the attempts do up to the
one that stops it. -/
theorem resume_executeAll :
    ∀ {ts : List Task} {past : List (Exchange Request Request.Answer)} {report : Report},
      let all := attempts world settings past ts
      (executeAll settings report ts).resume world past =
        (⟨report.statuses ++ accounts all⟩,
          (all.take (all.findIdx Attempt.stops + 1)).flatMap Attempt.log)
  | [], past, report => by
    simp [executeAll, attempts, accounts, pure, resume]
  | t :: ts, past, report => by
    intro all
    let a := attempt world settings past t
    have hall : all = a :: attempts world settings (past ++ a.log) ts := rfl
    rw [resume_executeAll_cons, hall, findIdx_stops, accounts]
    simp only
    split_ifs
    · -- What would be attempted after the stop has only its tasks in the report.
      have hleft := map_attempts world settings (fun t' => t'.notAttempted t.resource.key)
        (past ++ a.log) ts
      rw [← hleft]
      simp [a, attempt]
    · rw [resume_executeAll]
      simp [a]

/-- Every task is accounted for, in order. Up to the first failure or rejection on a resource with
priority each task is executed once, in the world in which the one before it has left off, and the
report says how that ended; the tasks after it are not attempted, and the batch exchanges nothing
more. A task is not left out but after a failure. -/
theorem executeAll_accounts (world : Respondent Request Request.Answer) (settings : Settings)
    (report : Report) (ts : List Task) :
    let run := (executeAll settings report ts).trace world
    let all := attempts world settings [] ts
    let k := all.findIdx Attempt.stops
    all.map Attempt.task = ts ∧ run.2 = (all.take (k + 1)).flatMap Attempt.log ∧
      ∃ added, run.1.statuses = report.statuses ++ added ∧
        added.map (fun s => (s.taskId, s.resource)) = ts.map (fun t => (t.id, t.resource.key)) ∧
        added.take (k + 1) = (all.take (k + 1)).map Attempt.status ∧
        (∀ s ∈ added.drop (k + 1), s.outcome = .notAttempted) ∧
        ((∃ s ∈ added, s.outcome = .notAttempted) → run.1.hasFailures) := by
  intro run all k
  have hrun : run = (⟨report.statuses ++ accounts all⟩, (all.take (k + 1)).flatMap Attempt.log) :=
    (trace_eq_resume world _).trans resume_executeAll
  refine ⟨(map_attempts world settings (fun t => t) [] ts).trans (List.map_id' ts), by rw [hrun],
    accounts all, by rw [hrun],
    map_accounts.trans (map_attempts world settings (fun t => (t.id, t.resource.key)) [] ts),
    take_accounts, fun _ => notAttempted_of_mem_drop_accounts, ?_⟩
  rintro ⟨s, hmem, hs⟩
  rw [hrun, Report.hasFailures, List.any_append, any_isFailure_accounts hs hmem, Bool.or_true]

end Task

end Provisioning
