import Provisioning.Proofs.Endings
import Provisioning.Proofs.Retry

/-!
# Reads that fail

Before the change a read that fails, other than by a timeout, counts as one that finds nothing: with
that reply in its place the exchanges of an execution are those of an execution with the same result
(`execute_asAbsent`). So an object that cannot be read is created, and is left alone by a task that
is to delete it, which succeeds (`execute_unread`).
-/

namespace Provisioning

open Program ExecutionLog

/-- The exchange as if a read before the change that failed, other than by a timeout, had found
nothing. -/
def asAbsent : Exchange Request Request.Answer → Exchange Request Request.Answer
  | ⟨.read .before t uid names, .error e⟩ =>
    ⟨.read .before t uid names, if e.isTimeout then .error e else .ok none⟩
  | e => e

namespace ExecutionLog

variable {es : ExecutionLog}

theorem map_asAbsent (h : readsBefore es = []) : es.map asAbsent = es := by
  refine (List.map_congr_left fun e he => ?_).trans (List.map_id es)
  obtain ⟨r, reply⟩ := e
  have hr : r.isReadBefore = false := by
    by_contra hb
    have hmem : r ∈ readsBefore es :=
      List.mem_filter.2 ⟨List.mem_map_of_mem he, by simpa using hb⟩
    simp [h] at hmem
  rcases r with _ | _ | _ | _ | ⟨_ | _, _, _, _⟩ | _ | _ | _ | _ | _ | _ | _ | _ | _ | _ | _ <;>
    first | rfl | simp [Request.isReadBefore] at hr

theorem readsBefore_append {es₁ es₂ : ExecutionLog} :
    readsBefore (es₁ ++ es₂) = readsBefore es₁ ++ readsBefore es₂ := by
  simp [readsBefore]

theorem readsBefore_ne_nil {reply : Except ConnectorError (Option RemoteObject)}
    (h : readBefore? es = some reply) : readsBefore es ≠ [] := by
  obtain ⟨⟨r, _⟩, he, hreply⟩ := List.exists_of_findSome?_eq_some h
  have hr : r.isReadBefore := by
    rcases r with _ | _ | _ | _ | ⟨_ | _, _, _, _⟩ | _ | _ | _ | _ | _ | _ | _ | _ | _ | _ | _ <;>
      first | rfl | simp at hreply
  exact List.ne_nil_of_mem (List.mem_filter.2 ⟨List.mem_map_of_mem he, hr⟩)

end ExecutionLog

namespace Task

variable {t : Task} {es : ExecutionLog} {settings : Settings} {r : Except Fault Execution}

theorem yields_read_asAbsent {read : Except Fault (Option RemoteObject)}
    (h : Yields (t.read .before t.accountIdBefore) es read) :
    Yields (t.read .before t.accountIdBefore) (es.map asAbsent) read := by
  rw [yields_read] at h ⊢
  rcases hid : idToRead t.accountIdBefore with _ | id <;> rw [hid] at h
  · obtain ⟨rfl, rfl⟩ := h
    exact ⟨rfl, rfl⟩
  · obtain ⟨reply, rfl, rfl⟩ := h
    rcases reply with e | o
    · refine ⟨if e.isTimeout then .error e else .ok none, rfl, ?_⟩
      by_cases he : e.isTimeout <;> simp [readAs, he]
    · exact ⟨.ok o, rfl, rfl⟩

theorem propagate_asAbsent {found : Bool} {actions : List Action} {object : Option RemoteObject}
    {outcome : Except Fault Bool} (h : Yields (t.propagate found actions) es (object, outcome)) :
    Yields (t.propagate found actions) (es.map asAbsent) (object, outcome) := by
  have hreads := (propagate_stages h).2.1.reads
  unfold propagate at h ⊢
  rcases found with _ | _
  · obtain ⟨rfl, hr⟩ := yields_pure.1 h
    exact yields_pure.2 ⟨rfl, hr⟩
  obtain ⟨es₁, es₂, read, rfl, h₁, h₂⟩ := yields_bind.1 h
  obtain ⟨hv, hread, -⟩ := evidence_of_read h₁
  have hnone : readsBefore es₂ = [] := by
    rw [if_pos rfl, ← hread, ← (Evidence.mk.inj hv).2.1, readsBefore_append,
      List.append_right_eq_self] at hreads
    exact hreads
  rw [List.map_append, map_asAbsent hnone]
  exact yields_bind.2 ⟨_, _, read, rfl, yields_read_asAbsent h₁, h₂⟩

/-- A read that failed before the change, other than by a timeout, might as well have found nothing.
-/
theorem execute_asAbsent (h : Yields (t.execute settings) es r) :
    Yields (t.execute settings) (es.map asAbsent) r := by
  unfold execute at h ⊢
  obtain ⟨now, es, rfl, h₀⟩ := yields_ask_bind.1 h
  obtain ⟨actions, es, rfl, h₁⟩ := yields_ask_bind.1 h₀
  obtain ⟨found, es, rfl, h₂⟩ := yields_ask_bind.1 h₁
  obtain ⟨es₁, es₂, ⟨object, outcome⟩, rfl, h₃, h₄⟩ := yields_bind.1 h₂
  have hconcluding : ∀ e ∈ es₂, e.request.isConcluding := by
    simp only at h₄
    split at h₄
    · simp [(yields_pure.1 h₄).1]
    · exact asks_bind asks_conclude (fun _ => asks_pure) _ _ h₄
    · exact asks_bind asks_conclude (fun _ => asks_pure) _ _ h₄
  have hnone := (Evidence.mk.inj (evidence_of_isConcluding hconcluding)).2.1
  refine yields_ask_bind.2 ⟨now, _, rfl, yields_ask_bind.2 ⟨actions, _, rfl,
    yields_ask_bind.2 ⟨found, _, rfl, ?_⟩⟩⟩
  rw [List.map_append, map_asAbsent hnone]
  exact yields_bind.2 ⟨_, _, _, rfl, propagate_asAbsent h₃, h₄⟩

/-- When the read before the change fails, other than by a timeout, the execution goes on as if it
had found nothing. Unless an action fails fatally the object is created, if the task is to update it
or lacks no mandatory value; nothing else is asked for, and a task that is to delete the object ends
as if it had. -/
theorem execute_unread (world : Respondent Request Request.Answer) (t : Task) (settings : Settings)
    {error : ConnectorError}
    (hread : readBefore? ((t.execute settings).trace world).2 = some (.error error))
    (herror : error.isTimeout = false) :
    let r := ((t.execute settings).trace world).1
    let es : ExecutionLog := ((t.execute settings).trace world).2
    Yields (t.execute settings) (es.map asAbsent) r ∧
      (.create t t.wanted ∈ writes es ↔ failedFatally es = false ∧
        (t.operation = .update ∨ t.operation = .create ∧ t.withoutValue = [])) ∧
      (∀ call ∈ writes es, call = .create t t.wanted) ∧
      (t.operation = .delete → writes es = [] ∧
        ∃ execution, r = .ok execution ∧ execution.status = .outcome t.mode (!failedFatally es)) := by
  intro r es
  have hy : Yields (t.execute settings) es r := yields_trace world _
  have hobject : objectBefore es = none := by
    rw [objectBefore, hread]
  have hstopped : stopped es = failedFatally es := by
    have hreads := (prepares_of_execute hy).reads
    have hc : hasConnector es := by
      by_contra hc
      exact readsBefore_ne_nil hread (by rw [hreads, if_neg hc])
    have ht : timedOut es = false := by
      rw [timedOut_of_error hread]
      exact herror
    rw [stopped, hc, ht]
    rfl
  have hw := writes_of_execute hy
  rw [hstopped, hobject] at hw
  have hmem (call : Request) : call ∈ writes es ↔
      failedFatally es = false ∧ t.change? none (directoryReply? es) = some call := by
    rw [hw]
    rcases failedFatally es <;> simp
  refine ⟨execute_asAbsent hy, ?_, fun call hcall => ?_, fun hop => ?_⟩
  · rw [hmem, change?_eq_create]
    simp
  · have hchange := ((hmem call).1 hcall).2
    rcases change?_eq_some.1 hchange with ⟨-, hc⟩ | ⟨o, -, ho, -⟩
    · exact (request?_converge_none.1 hc).2
    · simp at ho
  have hgone : t.IsSettled (objectBefore es) (directoryReply? es) := .inl ⟨hop, hobject⟩
  rw [← hstopped]
  exact execute_isSettled hy hgone

/-- A target system that holds one object and fails to read it before a change. -/
def unreadable (error : ConnectorError) (object : RemoteObject) :
    Respondent Request Request.Answer
  | _, .read .before _ _ _ => .error error
  | past, request => oneObject object object past request

/-- The object to be updated could not be read, so it is created. -/
theorem execute_unread_created :
    let t := toNew none
    let world := unreadable .authenticationFailed (named "new")
    let run := (t.execute .default).trace world
    Yields (t.execute .default) (run.2.map asAbsent) run.1 ∧ .create t t.wanted ∈ writes run.2 := by
  intro t world run
  have hread : readBefore? run.2 = some (.error .authenticationFailed) := rfl
  obtain ⟨absent, created, -⟩ :=
    execute_unread (unreadable .authenticationFailed (named "new")) (toNew none) .default hread rfl
  exact ⟨absent, created.2 ⟨rfl, .inl rfl⟩⟩

/-- The object is there each time, and the target system refuses to show it. One task creates it
once more; the other one is to delete it, does nothing, and succeeds. -/
theorem created_of_unread :
    let update := toNew none
    let delete := { toNew none with operation := .delete }
    let world := unreadable .authenticationFailed (named "new")
    let updated := (update.execute .default).trace world
    let deleted := (delete.execute .default).trace world
    readBefore? updated.2 = some (.error .authenticationFailed) ∧
      writes updated.2 = [.create update update.wanted] ∧
      readBefore? deleted.2 = some (.error .authenticationFailed) ∧ writes deleted.2 = [] ∧
      ∃ execution, deleted.1 = .ok execution ∧ execution.status = .success := by
  exact ⟨rfl, rfl, rfl, rfl, _, rfl, rfl⟩

end Task

end Provisioning
