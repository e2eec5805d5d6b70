import Provisioning.Proofs.ExecutionRuns
import Provisioning.Proofs.Tables
import Provisioning.Store

/-!
# What a store holds

How a store replies to one exchange and what becomes of it then (`Replies`), and by a whole log
(`Serves`). A flush reveals all that is pending, whoever appended it, so the invariant is about all
that was appended: the store `Holds` exactly that, behind what it shows what is pending
(`Holds.serves`).
-/

namespace Provisioning

open Program

namespace ExecutionLog

/-- The exchanges with the store. -/
def ofStore (es : ExecutionLog) : ExecutionLog :=
  es.filter fun e => e.request.isOfStore

theorem ofStore_append {es₁ es₂ : ExecutionLog} :
    ofStore (es₁ ++ es₂) = ofStore es₁ ++ ofStore es₂ :=
  List.filter_append ..

theorem ofStore_eq_nil {es : ExecutionLog} (h : ∀ e ∈ es, e.request.isOfStore = false) :
    ofStore es = [] :=
  List.filter_eq_nil_iff.2 fun e he => by simp [h e he]

theorem mem_of_mem_ofStore {es : ExecutionLog} {e : Exchange Request Request.Answer}
    (h : e ∈ ofStore es) : e ∈ es :=
  (List.mem_filter.1 h).1

/-- The execution that an exchange hands to the store, under the identifier that it got there. -/
def appended? : Exchange Request Request.Answer → Option Execution
  | ⟨.append _ execution, .ok id⟩ => some (execution.withId id)
  | _ => none

/-- The executions that were appended, in order. -/
def appended (es : ExecutionLog) : List Execution :=
  es.filterMap appended?

theorem exists_of_appended? {e : Exchange Request Request.Answer} (h : (appended? e).isSome) :
    ∃ t execution id, e = ⟨.append t execution, .ok id⟩ := by
  unfold appended? at h
  split at h
  · exact ⟨_, _, _, rfl⟩
  · exact absurd h Bool.false_ne_true

theorem exists_of_mem_appended {es : ExecutionLog} {x : Execution} (h : x ∈ appended es) :
    ∃ t execution id, ⟨.append t execution, .ok id⟩ ∈ es ∧ x = execution.withId id := by
  obtain ⟨e, he, hx⟩ := List.mem_filterMap.1 h
  obtain ⟨t, execution, id, rfl⟩ := exists_of_appended? (Option.isSome_of_mem hx)
  exact ⟨t, execution, id, he, (Option.some.inj hx).symm⟩

end ExecutionLog

open ExecutionLog

namespace TaskStore

variable {s s' : TaskStore} {es : ExecutionLog} {t : Task} {execution : Execution}
  {id : TaskId}

/-- How a store replies, and what becomes of it. The identifiers that it gives out are its own
choice, and it has no part in what is not asked of it. -/
inductive Replies (s : TaskStore) : Exchange Request Request.Answer → TaskStore → Prop
  | save (t : Task) : Replies s ⟨.save t, .ok ()⟩ (s.save t)
  | append {t : Task} {execution : Execution} {id : ExecutionId} {s' : TaskStore}
      (h : s.append t execution id = .ok s') : Replies s ⟨.append t execution, .ok id⟩ s'
  | refuse {t : Task} {execution : Execution} {id : ExecutionId} {error : StoreError}
      (h : s.append t execution id = .error error) :
      Replies s ⟨.append t execution, .error error⟩ s
  | flush : Replies s ⟨.flush, .ok ()⟩ s.flush
  | other {r : Request} {reply : r.Answer} (h : r.isOfStore = false) : Replies s ⟨r, reply⟩ s

/-- All that is asked of a store in a log has the reply of the store. -/
inductive Serves : TaskStore → ExecutionLog → TaskStore → Prop
  | nil (s : TaskStore) : Serves s [] s
  | cons {s m s' : TaskStore} {e : Exchange Request Request.Answer} {es : ExecutionLog} :
      Replies s e m → Serves m es s' → Serves s (e :: es) s'

theorem append_eq_ok {id : ExecutionId} : s.append t execution id = .ok s' ↔
    (s.task? t.id).isSome ∧ s' = { s with pending := s.pending ++ [execution.withId id] } := by
  unfold append
  rcases s.task? t.id with _ | _ <;> simp [eq_comm]

theorem append_eq_error {id : ExecutionId} {error : StoreError} :
    s.append t execution id = .error error ↔ s.task? t.id = none ∧ error = .taskNotFound t.id := by
  unfold append
  rcases s.task? t.id with _ | _ <;> simp [eq_comm]

theorem task?_save : (s.save t).task? id = if id = t.id then some t else s.task? id :=
  Keyed.lookup_put

theorem foldl_reveal {executions : List Execution} : ∀ {shown : List (TaskId × List Execution)},
    ((executions.foldl reveal shown).lookup id).getD [] =
      (shown.lookup id).getD [] ++ executions.filter fun e => e.taskId == id := by
  induction executions with
  | nil => simp
  | cons e rest ih =>
    intro shown
    rw [List.foldl_cons, ih, reveal, Keyed.lookup_put, List.filter_cons]
    by_cases he : e.taskId = id
    · simp [he]
    · simp [he, Ne.symm he]

theorem executionsOf_flush :
    s.flush.executionsOf id = s.executionsOf id ++ s.pending.filter fun e => e.taskId == id :=
  foldl_reveal

/-- The store holds these executions, in the order in which they came: first those that it shows
under their tasks, then those that are pending. -/
def Holds (s : TaskStore) (executions : List Execution) : Prop :=
  ∃ shown, executions = shown ++ s.pending ∧
    ∀ id, s.executionsOf id = shown.filter fun e => e.taskId == id

theorem holds_empty : empty.Holds [] :=
  ⟨[], rfl, fun _ => rfl⟩

variable {executions : List Execution} {e : Exchange Request Request.Answer}

theorem Holds.replies (h : s.Holds executions) (hr : s.Replies e s') :
    s'.Holds (executions ++ (appended? e).toList) := by
  obtain ⟨shown, rfl, hshown⟩ := h
  cases hr with
  | save t => exact ⟨shown, by simp [appended?, save], hshown⟩
  | append ha =>
    obtain ⟨-, rfl⟩ := append_eq_ok.1 ha
    exact ⟨shown, by simp [appended?], hshown⟩
  | refuse => exact ⟨shown, by simp [appended?], hshown⟩
  | flush =>
    -- What was pending is shown now, behind what was shown before.
    refine ⟨shown ++ s.pending, by simp [appended?, flush], fun id => ?_⟩
    rw [executionsOf_flush, hshown, List.filter_append]
  | @other r reply hother =>
    have hnone : appended? ⟨r, reply⟩ = none := by
      by_contra hne
      obtain ⟨t, execution, id, he⟩ := exists_of_appended? (Option.isSome_iff_ne_none.2 hne)
      obtain rfl := (Exchange.mk.inj he).1
      simp [Request.isOfStore] at hother
    exact ⟨shown, by simp [hnone], hshown⟩

/-- Whatever a store is asked for, it holds what was appended: nothing is lost and nothing is shown
twice. -/
theorem Holds.serves (h : s.Holds executions) (hs : Serves s es s') :
    s'.Holds (executions ++ appended es) := by
  induction hs generalizing executions with
  | nil s => simpa [appended] using h
  | @cons s m s' e es hr _ ih =>
    have hm := ih (h.replies hr)
    rcases ha : appended? e with _ | x <;> simpa [appended, List.filterMap_cons, ha] using hm

theorem Holds.mem_executionsOf {x : Execution} (h : s.Holds executions)
    (hx : x ∈ s.executionsOf id) : x ∈ executions ∧ x.taskId = id := by
  obtain ⟨shown, rfl, hshown⟩ := h
  rw [hshown, List.mem_filter, beq_iff_eq] at hx
  exact ⟨List.mem_append_left _ hx.1, hx.2⟩

/-- What a store holds is either pending or visible, and not both. -/
theorem Holds.mem_pending_iff {x : Execution} (h : s.Holds executions) (hd : executions.Nodup)
    (hx : x ∈ executions) : x ∈ s.pending ↔ x ∉ s.executionsOf x.taskId := by
  obtain ⟨shown, rfl, hshown⟩ := h
  have hvisible : x ∈ s.executionsOf x.taskId ↔ x ∈ shown := by simp [hshown]
  rw [hvisible]
  constructor
  · exact fun hp hs => (List.nodup_append.1 hd).2.2 x hs x hp rfl
  · exact (List.mem_append.1 hx).resolve_left

theorem Holds.executionsOf_eq (h : s.Holds executions) (hp : s.pending = []) :
    s.executionsOf id = executions.filter fun e => e.taskId == id := by
  obtain ⟨shown, rfl, hshown⟩ := h
  rw [hp, List.append_nil, hshown]

theorem Replies.task?_isSome (hr : s.Replies e s') (h : (s.task? id).isSome) :
    (s'.task? id).isSome := by
  cases hr with
  | save t =>
    rw [task?_save]
    split_ifs
    · rfl
    · exact h
  | append ha =>
    obtain ⟨-, rfl⟩ := append_eq_ok.1 ha
    exact h
  | refuse => exact h
  | flush => exact h
  | other => exact h

theorem Serves.task?_isSome (hs : Serves s es s') (h : (s.task? id).isSome) :
    (s'.task? id).isSome := by
  induction hs with
  | nil => exact h
  | cons hr _ ih => exact ih (hr.task?_isSome h)

theorem serves_append {es₁ es₂ : ExecutionLog} :
    Serves s (es₁ ++ es₂) s' ↔ ∃ m, Serves s es₁ m ∧ Serves m es₂ s' := by
  constructor
  · intro h
    induction es₁ generalizing s with
    | nil => exact ⟨s, .nil s, h⟩
    | cons e es₁ ih =>
      cases h with
      | cons hr hs =>
        obtain ⟨m, h₁, h₂⟩ := ih hs
        exact ⟨m, .cons hr h₁, h₂⟩
  · rintro ⟨m, h₁, h₂⟩
    induction h₁ with
    | nil => exact h₂
    | cons hr _ ih => exact .cons hr (ih h₂)

/-- Only what is asked of a store matters to it. -/
theorem Serves.of_ofStore (hs : Serves s (ofStore es) s') : Serves s es s' := by
  induction es generalizing s with
  | nil => exact hs
  | cons e es ih =>
    rcases hstore : e.request.isOfStore
    · rw [ofStore, List.filter_cons_of_neg (by simp [hstore])] at hs
      exact .cons (.other hstore) (ih hs)
    · rw [ofStore, List.filter_cons_of_pos (by exact hstore)] at hs
      cases hs with
      | cons hr hs => exact .cons hr (ih hs)

theorem Serves.replies_of_mem (hs : Serves s es s') (he : e ∈ es) :
    ∃ m m' es₂, Replies m e m' ∧ Serves m' es₂ s' := by
  obtain ⟨es₁, es₂, rfl⟩ := List.append_of_mem he
  obtain ⟨m, -, h₂⟩ := serves_append.1 hs
  cases h₂ with
  | cons hr hs' => exact ⟨m, _, es₂, hr, hs'⟩

/-- The task of an execution that was appended is there. -/
theorem Serves.task?_of_append {id : ExecutionId} (hs : Serves s es s')
    (he : ⟨.append t execution, .ok id⟩ ∈ es) : (s'.task? t.id).isSome := by
  obtain ⟨m, m', es₂, hr, hs'⟩ := hs.replies_of_mem he
  refine hs'.task?_isSome ?_
  cases hr with
  | append ha =>
    obtain ⟨hsaved, rfl⟩ := append_eq_ok.1 ha
    exact hsaved
  | other hother => simp [Request.isOfStore] at hother

theorem Replies.save_eq {reply : Except StoreError Unit} (hr : s.Replies ⟨.save t, reply⟩ s') :
    reply = .ok () ∧ s' = s.save t := by
  cases hr with
  | save => exact ⟨rfl, rfl⟩
  | other hother => simp [Request.isOfStore] at hother

theorem Replies.flush_eq {reply : Except StoreError Unit} (hr : s.Replies ⟨.flush, reply⟩ s') :
    reply = .ok () ∧ s' = s.flush := by
  cases hr with
  | flush => exact ⟨rfl, rfl⟩
  | other hother => simp [Request.isOfStore] at hother

/-- An execution is not refused when its task was saved before. -/
theorem Serves.append_accepted {es₁ es₂ : ExecutionLog} {reply : Except StoreError ExecutionId}
    {saved : Except StoreError Unit} (hs : Serves s (es₁ ++ ⟨.append t execution, reply⟩ :: es₂) s')
    (he : ⟨.save t, saved⟩ ∈ es₁) : ∃ id, reply = .ok id := by
  obtain ⟨m, h₁, h₂⟩ := serves_append.1 hs
  have hsaved : (m.task? t.id).isSome := by
    obtain ⟨m₁, m₂, _, hr, hs'⟩ := h₁.replies_of_mem he
    obtain ⟨-, rfl⟩ := hr.save_eq
    exact hs'.task?_isSome (by simp [task?_save])
  cases h₂ with
  | cons hr _ =>
    cases hr with
    | append => exact ⟨_, rfl⟩
    | refuse ha => simp [(append_eq_error.1 ha).1] at hsaved
    | other hother => simp [Request.isOfStore] at hother

/-- Nothing is left pending when each append is followed by a flush. -/
theorem Serves.pending_eq_nil (hs : Serves s es s')
    (hflush : ∀ es₁ e es₂, es = es₁ ++ e :: es₂ → (appended? e).isSome →
      ∃ f ∈ es₂, f.request = .flush)
    (h : s.pending = [] ∨ ∃ f ∈ es, f.request = .flush) : s'.pending = [] := by
  -- While anything is pending, a flush is still to come.
  induction hs with
  | nil => simpa using h
  | @cons s m s' e es hr _ ih =>
    refine ih (fun es₁ x es₂ he => hflush (e :: es₁) x es₂ (by rw [he, List.cons_append])) ?_
    cases hr with
    | save t => exact h.imp_right (by simp)
    | append ha => exact .inr (hflush [] _ es rfl rfl)
    | refuse => exact h.imp_right (by simp)
    | flush => exact .inl rfl
    | other hother =>
      refine h.imp_right ?_
      rintro ⟨f, hf, hr⟩
      rcases List.mem_cons.1 hf with rfl | hf
      · simp only at hr
        subst hr
        simp [Request.isOfStore] at hother
      · exact ⟨f, hf, hr⟩

end TaskStore

end Provisioning
