import Provisioning.Proofs.Retry
import Provisioning.Proofs.Stores

/-!
# Executions that share a store

Executions take turns in any order, and a store replies to them as they come. One that has dealings
with the store saves its task, appends an execution of it and flushes (`ofStore_execute`,
`Task.register_cases`). So nothing that is appended is refused, and a flush is still to come after it:
when all executions are over nothing is pending, and what is visible under a task is what was
appended to it (`nothing_lost`).
-/

/-- An item that is neither the first of a list nor after its second is the second one. -/
theorem List.eq_second_of_append {α : Type} {a b x : α} {l l₁ l₂ : List α}
    (h : l₁ ++ x :: l₂ = a :: b :: l) (ha : x ≠ a) (hl : x ∉ l) : l₁ = [a] ∧ x = b ∧ l₂ = l := by
  rcases l₁ with _ | ⟨y, _ | ⟨z, l₁⟩⟩
  · exact absurd (List.cons.inj h).1 ha
  · obtain ⟨rfl, rfl, rfl⟩ := by simpa using h
    exact ⟨rfl, rfl, rfl⟩
  · obtain ⟨-, -, rfl⟩ := by simpa using h
    simp at hl

namespace Provisioning

open Program ExecutionLog

namespace Task

variable {t : Task} {es : ExecutionLog} {settings : Settings} {r : Except Fault Execution}

theorem ofStore_register {execution e : Execution} (h : Yields (t.register execution) es e) :
    ofStore es = es :=
  List.filter_eq_self.2 fun e he => (Bool.and_eq_true_iff.1 (asks_register _ _ h e he)).2

theorem taskId_finished {execution : Execution} {status : ExecutionStatus} {fault : Option Fault}
    {length : Nat} {now : Calendar.Instant} :
    (execution.finished status fault length now).taskId = execution.taskId := by
  rcases fault with _ | _ <;> rfl

/-- An execution has no dealings with the store, or is registered there, and then is what that makes
of it. -/
theorem ofStore_execute (h : Yields (t.execute settings) es r) :
    ofStore es = [] ∨ ∃ execution e, execution.taskId = t.id ∧
      Yields (t.register execution) (ofStore es) e ∧ r = .ok e := by
  obtain ⟨start, actions, found, es₁, es₂, object, outcome, rfl, hp, hr⟩ := execute_cases h
  have h₁ : ofStore es₁ = [] := ofStore_eq_nil fun e he =>
    Request.isOfStore_eq_false (asks_propagate _ _ hp e he)
  have hes : ofStore (⟨.now, start⟩ :: ⟨.actions t.resource, actions⟩ ::
      ⟨.connector t.resource, found⟩ :: (es₁ ++ es₂)) = ofStore es₂ := by
    show ofStore (es₁ ++ es₂) = _
    rw [ofStore_append, h₁, List.nil_append]
  rw [hes]
  rcases hr with ⟨names, -, rfl, -⟩ | ⟨fault, attempted, e, rfl, hc, -⟩
  · exact .inl rfl
  obtain ⟨now, es₃, after, es₄, es₅, rfl, ha, he, ht⟩ := conclude_cases hc
  have h₃ : ofStore es₃ = [] := ofStore_eq_nil fun e he => by
    simpa using (Bool.and_eq_true_iff.1 (asks_readAfter _ _ ha e he)).2
  have h₅ : ofStore es₅ = [] := ofStore_eq_nil fun e he => by
    simpa using (Bool.and_eq_true_iff.1 (asks_tell _ _ ht e he)).2
  have hes' : ofStore (⟨.now, now⟩ :: (es₃ ++ (es₄ ++ es₅))) = ofStore es₄ := by
    show ofStore (es₃ ++ (es₄ ++ es₅)) = _
    rw [ofStore_append, ofStore_append, h₃, h₅, List.nil_append, List.append_nil]
  rw [hes']
  simp only at he
  split_ifs at he
  · refine .inr ⟨_, e, ?_, by rwa [ofStore_register he], rfl⟩
    exact taskId_finished
  · rw [he.1]
    exact .inl rfl

theorem append_of_register {t' : Task} {execution execution' e : Execution}
    {reply : Except StoreError ExecutionId} {es₁ es₂ : ExecutionLog}
    (h : Yields (t.register execution) (es₁ ++ ⟨.append t' execution', reply⟩ :: es₂) e) :
    t' = t ∧ execution' = execution ∧ (∃ saved, ⟨.save t, saved⟩ ∈ es₁) ∧
      (reply.isOk → ∃ flushed, ⟨.flush, flushed⟩ ∈ es₂) := by
  rcases register_cases h with ⟨_, hl, -⟩ | ⟨_, hl, -⟩ | ⟨_, _, hl, -⟩ | ⟨_, hl, -⟩
  · have hx := hl ▸ List.mem_append_right es₁ List.mem_cons_self
    simp at hx
  · obtain ⟨rfl, hx, -⟩ := List.eq_second_of_append hl (by simp) (by simp)
    obtain ⟨ha, hreply⟩ := Exchange.mk.inj hx
    obtain ⟨rfl, rfl⟩ := Request.append.inj ha
    obtain rfl := eq_of_heq hreply
    exact ⟨rfl, rfl, ⟨_, List.mem_singleton_self _⟩, nofun⟩
  all_goals
    obtain ⟨rfl, hx, rfl⟩ := List.eq_second_of_append hl (by simp) (by simp)
    obtain ⟨rfl, rfl⟩ := Request.append.inj (Exchange.mk.inj hx).1
    exact ⟨rfl, rfl, ⟨_, List.mem_singleton_self _⟩, fun _ => ⟨_, List.mem_singleton_self _⟩⟩

/-- What is appended in an execution is an execution of its task, which it has saved before; when it
is accepted a flush follows. -/
theorem append_of_execute {t' : Task} {execution : Execution}
    {reply : Except StoreError ExecutionId} {es₁ es₂ : ExecutionLog}
    (h : Yields (t.execute settings) (es₁ ++ ⟨.append t' execution, reply⟩ :: es₂) r) :
    t' = t ∧ execution.taskId = t.id ∧ (∃ saved, ⟨.save t, saved⟩ ∈ es₁) ∧
      (reply.isOk → ∃ flushed, ⟨.flush, flushed⟩ ∈ es₂) := by
  have hes : ofStore (es₁ ++ ⟨.append t' execution, reply⟩ :: es₂) =
      ofStore es₁ ++ ⟨.append t' execution, reply⟩ :: ofStore es₂ := ofStore_append
  rcases ofStore_execute h with hnil | ⟨execution', e, htask, hregister, -⟩
  · rw [hes] at hnil
    simp at hnil
  rw [hes] at hregister
  obtain ⟨ht, rfl, ⟨saved, hsaved⟩, hflush⟩ := append_of_register hregister
  refine ⟨ht, htask, ⟨saved, mem_of_mem_ofStore hsaved⟩, fun hok => ?_⟩
  obtain ⟨flushed, hf⟩ := hflush hok
  exact ⟨flushed, mem_of_mem_ofStore hf⟩

end Task

/-- An exchange of one of several executions, by its place among them. -/
structure Turn where
  run : Nat
  exchange : Exchange Request Request.Answer

/-- The exchanges of several executions in the order in which they took place. -/
abbrev SharedLog := List Turn

namespace SharedLog

def all (log : SharedLog) : ExecutionLog :=
  log.map Turn.exchange

/-- The exchanges of one execution. -/
def ofRun (log : SharedLog) (i : Nat) : ExecutionLog :=
  (log.filter fun turn => turn.run == i).map Turn.exchange

/-- Executions, each of a task with settings, take turns in any order: what each of them has
exchanged so far is the beginning of a run of it. -/
structure Interleaves (log : SharedLog) (runs : List (Task × Settings)) : Prop where
  known : ∀ turn ∈ log, ∃ t settings, runs[turn.run]? = some (t, settings)
  begun : ∀ i t settings, runs[i]? = some (t, settings) →
    ∃ rest r, Yields (t.execute settings) (log.ofRun i ++ rest) r

/-- All executions have come to their end. -/
def IsOver (log : SharedLog) (runs : List (Task × Settings)) : Prop :=
  ∀ i t settings, runs[i]? = some (t, settings) → ∃ r, Yields (t.execute settings) (log.ofRun i) r

variable {log before after : SharedLog} {runs : List (Task × Settings)} {turn : Turn}
  {store : TaskStore} {e : Exchange Request Request.Answer} {i : Nat}

theorem all_append : all (before ++ turn :: after) = before.all ++ turn.exchange :: after.all := by
  simp [all]

theorem ofRun_append : ofRun (before ++ turn :: after) turn.run =
    before.ofRun turn.run ++ turn.exchange :: after.ofRun turn.run := by
  simp [ofRun]

theorem mem_all_of_mem_ofRun (h : e ∈ log.ofRun i) : e ∈ log.all := by
  obtain ⟨turn, hturn, rfl⟩ := List.mem_map.1 h
  exact List.mem_map_of_mem (List.mem_filter.1 hturn).1

theorem exists_turn (h : e ∈ log.all) : ∃ before turn after, log = before ++ turn :: after ∧
    turn.exchange = e := by
  obtain ⟨turn, hturn, rfl⟩ := List.mem_map.1 h
  obtain ⟨before, after, rfl⟩ := List.append_of_mem hturn
  exact ⟨before, turn, after, rfl, rfl⟩

/-- What is appended at a turn is an execution of the task whose turn it is, and that task was
saved before. -/
theorem Interleaves.append_turn {t' : Task} {execution : Execution}
    {reply : Except StoreError ExecutionId} (h : Interleaves (before ++ turn :: after) runs)
    (he : turn.exchange = ⟨.append t' execution, reply⟩) :
    execution.taskId = t'.id ∧ ∃ saved, ⟨.save t', saved⟩ ∈ before.all := by
  obtain ⟨t, settings, hrun⟩ := h.known turn (by simp)
  obtain ⟨rest, r, hy⟩ := h.begun turn.run t settings hrun
  rw [ofRun_append, he, List.append_assoc, List.cons_append] at hy
  obtain ⟨rfl, htask, ⟨saved, hsaved⟩, -⟩ := Task.append_of_execute hy
  exact ⟨htask, saved, mem_all_of_mem_ofRun hsaved⟩

/-- A store does not refuse what is appended. -/
theorem Interleaves.append_accepted {t : Task} {execution : Execution}
    {reply : Except StoreError ExecutionId} (h : log.Interleaves runs)
    (hs : TaskStore.Serves .empty log.all store) (he : ⟨.append t execution, reply⟩ ∈ log.all) :
    ∃ id, reply = .ok id := by
  obtain ⟨before, turn, after, rfl, hturn⟩ := exists_turn he
  obtain ⟨-, saved, hsaved⟩ := h.append_turn hturn
  rw [all_append, hturn] at hs
  exact hs.append_accepted hsaved

/-- The task of an execution that was appended is saved. -/
theorem Interleaves.task?_of_appended {x : Execution} (h : log.Interleaves runs)
    (hs : TaskStore.Serves .empty log.all store) (hx : x ∈ appended log.all) :
    (store.task? x.taskId).isSome := by
  obtain ⟨t, execution, id, he, rfl⟩ := exists_of_mem_appended hx
  obtain ⟨before, turn, after, rfl, hturn⟩ := exists_turn he
  obtain ⟨htask, -⟩ := h.append_turn hturn
  show (store.task? execution.taskId).isSome
  rw [htask]
  exact hs.task?_of_append he

/-- When all executions are over, nothing is left pending. -/
theorem Interleaves.pending_eq_nil (h : log.Interleaves runs) (hover : log.IsOver runs)
    (hs : TaskStore.Serves .empty log.all store) : store.pending = [] := by
  refine hs.pending_eq_nil (fun es₁ e es₂ hsplit he => ?_) (.inl rfl)
  obtain ⟨t', execution, id, rfl⟩ := exists_of_appended? he
  obtain ⟨before, later, rfl, -, hlater⟩ := List.map_eq_append_iff.1 hsplit
  obtain ⟨turn, after, rfl, hturn, rfl⟩ := List.map_eq_cons_iff.1 hlater
  obtain ⟨t, settings, hrun⟩ := h.known turn (by simp)
  obtain ⟨r, hy⟩ := hover turn.run t settings hrun
  rw [ofRun_append, hturn] at hy
  obtain ⟨-, -, -, hflush⟩ := Task.append_of_execute hy
  obtain ⟨flushed, hf⟩ := hflush rfl
  exact ⟨_, mem_all_of_mem_ofRun hf, rfl⟩

theorem mem_appended_of_ofStore {t : Task} {execution : Execution} {id : ExecutionId}
    (h : ⟨.append t execution, .ok id⟩ ∈ ofStore (log.ofRun i)) :
    execution.withId id ∈ appended log.all :=
  List.mem_filterMap.2 ⟨_, mem_all_of_mem_ofRun (mem_of_mem_ofStore h), rfl⟩

/-- The dealings that an execution which is over had with the store: none, or it saved its task,
appended an execution of the task and flushed, and ended with that execution under the identifier
that it got. -/
theorem Interleaves.registered {t : Task} {settings : Settings} {r : Except Fault Execution}
    (h : log.Interleaves runs) (hs : TaskStore.Serves .empty log.all store)
    (hy : Yields (t.execute settings) (log.ofRun i) r) :
    ofStore (log.ofRun i) = [] ∨ ∃ execution id, execution.taskId = t.id ∧
      ofStore (log.ofRun i) =
        [⟨.save t, .ok ()⟩, ⟨.append t execution, .ok id⟩, ⟨.flush, .ok ()⟩] ∧
      r = .ok (execution.withId id) := by
  have hmem {e} (he : e ∈ ofStore (log.ofRun i)) : e ∈ log.all :=
    mem_all_of_mem_ofRun (mem_of_mem_ofStore he)
  refine (Task.ofStore_execute hy).imp_right ?_
  rintro ⟨execution, e, htask, hregister, rfl⟩
  -- The store refuses nothing of this, so registering goes through.
  rcases Task.register_cases hregister with
    ⟨error, hl, -⟩ | ⟨error, hl, -⟩ | ⟨id, error, hl, -⟩ | ⟨id, hl, rfl⟩
  · obtain ⟨_, _, _, hr, -⟩ := hs.replies_of_mem (hmem (hl ▸ List.mem_singleton_self _))
    exact absurd hr.save_eq.1 nofun
  · obtain ⟨id, hid⟩ := h.append_accepted hs
      (hmem (hl ▸ List.mem_cons_of_mem _ List.mem_cons_self))
    exact absurd hid nofun
  · obtain ⟨_, _, _, hr, -⟩ := hs.replies_of_mem
      (hmem (hl ▸ by simp : ⟨.flush, .error error⟩ ∈ ofStore (log.ofRun i)))
    exact absurd hr.flush_eq.1 nofun
  · exact ⟨execution, id, htask, hl, rfl⟩

/-- No execution is lost and none is kept twice, in whatever order executions that share a store
take turns. At any time the store holds what was appended, each execution of it either pending or
visible, and what is visible belongs to a task that is saved. When all executions are over, what is
visible under a task is what was appended to it, and nothing is pending. -/
theorem nothing_lost (h : log.Interleaves runs) (hs : TaskStore.Serves .empty log.all store) :
    store.Holds (appended log.all) ∧
    (((appended log.all).map Execution.id).Nodup → ∀ x ∈ appended log.all,
      (x ∈ store.pending ↔ x ∉ store.executionsOf x.taskId)) ∧
    (∀ id, ∀ x ∈ store.executionsOf id, x.taskId = id ∧ (store.task? id).isSome) ∧
    (log.IsOver runs → store.pending = [] ∧
      (∀ id, store.executionsOf id = (appended log.all).filter fun x => x.taskId == id) ∧
      ∀ i t settings r, runs[i]? = some (t, settings) →
        Yields (t.execute settings) (log.ofRun i) r →
        ofStore (log.ofRun i) = [] ∨ ∃ execution id, execution.taskId = t.id ∧
          ofStore (log.ofRun i) =
            [⟨.save t, .ok ()⟩, ⟨.append t execution, .ok id⟩, ⟨.flush, .ok ()⟩] ∧
          r = .ok (execution.withId id) ∧ execution.withId id ∈ store.executionsOf t.id) := by
  have hholds : store.Holds (appended log.all) := by simpa using TaskStore.holds_empty.serves hs
  have hnodup (hd : ((appended log.all).map Execution.id).Nodup) : (appended log.all).Nodup :=
    List.Pairwise.of_map Execution.id (fun _ _ hne he => hne (congrArg Execution.id he)) hd
  refine ⟨hholds, fun hd x => hholds.mem_pending_iff (hnodup hd), fun id x hx => ?_,
    fun hover => ?_⟩
  · obtain ⟨hmem, rfl⟩ := hholds.mem_executionsOf hx
    exact ⟨rfl, h.task?_of_appended hs hmem⟩
  · have hp := h.pending_eq_nil hover hs
    refine ⟨hp, fun id => hholds.executionsOf_eq hp, fun i t settings r _ hy => ?_⟩
    refine (h.registered hs hy).imp_right ?_
    rintro ⟨execution, id, htask, hl, hr⟩
    refine ⟨execution, id, htask, hl, hr, ?_⟩
    have hx : ⟨.append t execution, .ok id⟩ ∈ ofStore (log.ofRun i) := by simp [hl]
    rw [hholds.executionsOf_eq hp, List.mem_filter]
    exact ⟨mem_appended_of_ofStore hx, by simp [Execution.withId, htask]⟩

/-- Two executions that take turns. -/
def lockstep (es es' : ExecutionLog) : SharedLog :=
  (es.zip es').flatMap fun e => [⟨0, e.1⟩, ⟨1, e.2⟩]

theorem run_of_mem_lockstep {es es' : ExecutionLog} (h : turn ∈ lockstep es es') :
    turn.run = 0 ∨ turn.run = 1 := by
  obtain ⟨e, -, he⟩ := List.mem_flatMap.1 h
  obtain rfl | rfl : turn = ⟨0, e.1⟩ ∨ turn = ⟨1, e.2⟩ := by simpa using he
  · exact .inl rfl
  · exact .inr rfl

/-- A task whose executions are all kept, to make an object named `new`. -/
def keptTask (i : Nat) : Task :=
  { Task.toNew none with
    id := ⟨i⟩
    resource := (Resource.bare "ldap" "directory").withTrace .all }

/-- A target system with one object, and a store whose next identifier is this one. -/
def giving (i : Nat) : Respondent Request Request.Answer
  | _, .append _ _ => .ok ⟨i⟩
  | past, request => Task.oneObject (Task.named "old") (Task.named "old") past request

/-- The first of two flushes makes the executions of both tasks visible. -/
theorem nothing_lost_lockstep :
    let run (i : Nat) := ((keptTask i).execute .default).trace (giving (7 + i))
    let log := lockstep (run 0).2 (run 1).2
    let runs := [(keptTask 0, .default), (keptTask 1, .default)]
    ∃ store, log.Interleaves runs ∧ log.IsOver runs ∧ TaskStore.Serves .empty log.all store ∧
      (appended log.all).map Execution.id = [some ⟨7⟩, some ⟨8⟩] ∧ store.pending = [] ∧
      (store.executionsOf ⟨0⟩).map Execution.id = [some ⟨7⟩] ∧
      (store.executionsOf ⟨1⟩).map Execution.id = [some ⟨8⟩] := by
  intro run log runs
  have hover : log.IsOver runs := by
    rintro (_ | _ | i) t settings ⟨⟩
    · exact ⟨_, yields_trace (giving 7) _⟩
    · exact ⟨_, yields_trace (giving 8) _⟩
  have hruns : log.Interleaves runs := by
    refine ⟨fun turn hturn => ?_, fun i t settings hi => ?_⟩
    · rcases run_of_mem_lockstep hturn with hi | hi
      · exact ⟨keptTask 0, .default, by rw [hi]; rfl⟩
      · exact ⟨keptTask 1, .default, by rw [hi]; rfl⟩
    · obtain ⟨r, hy⟩ := hover i t settings hi
      exact ⟨[], r, by rwa [List.append_nil]⟩
  obtain ⟨store, hserves⟩ : ∃ store, TaskStore.Serves .empty (ofStore log.all) store :=
    ⟨_, .cons (.save _) (.cons (.save _) (.cons (.append rfl) (.cons (.append rfl)
      (.cons .flush (.cons .flush (.nil _))))))⟩
  have hlost := nothing_lost hruns hserves.of_ofStore
  obtain ⟨hp, hvisible, -⟩ := hlost.2.2.2 hover
  exact ⟨store, hruns, hover, hserves.of_ofStore, rfl, hp, hvisible _ ▸ rfl, hvisible _ ▸ rfl⟩

end SharedLog

end Provisioning
