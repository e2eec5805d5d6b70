import Provisioning.Proofs.Endings

/-!
# Executing a task again

A successful execution either found the object as it should be, or had its change accepted
(`execute_success`). Executed again, right after, the task finds an object that the change has made
as it should be, and asks for nothing. While the object is being renamed this fails: the task still
looks for the object under its former account id, where a target system that did as it was told has
nothing any more, and so the object is created a second time (`execute_again`).
-/

namespace Provisioning

open Program ExecutionLog

namespace Task

variable {t : Task} {es : ExecutionLog} {r : Except Fault Execution} {settings : Settings}

/-- A target system has accepted that the object of a task is created or updated. -/
structure IsApplied (t : Task) (e : Exchange Request Request.Answer) : Prop where
  accepted : isAccepted e
  call : (∃ attributes, e.request = .create t attributes) ∨
    ∃ uid attributes, e.request = .update t uid attributes

/-- The task changes the account id of its object. -/
def IsRename (t : Task) : Prop :=
  ∃ old, t.oldAccountId = some old ∧ t.accountId ≠ some old

theorem accountIdBefore_of_not_isRename {accountId : String} (ha : t.accountId = some accountId)
    (h : ¬t.IsRename) : t.accountIdBefore = some accountId := by
  rw [accountIdBefore]
  rcases ho : t.oldAccountId with _ | old
  · exact ha
  · rw [← ha]
    by_contra hne
    exact h ⟨old, ho, fun heq => hne (by rw [heq]; rfl)⟩

theorem readBefore_cases {world : Respondent Request Request.Answer} {past : ExecutionLog}
    (h : Yields (t.execute settings) es r) (ha : Answered world past es) (hc : hasConnector es) :
    (idToRead t.accountIdBefore = none ∧ objectBefore es = none) ∨
      ∃ id es₁ es₂, idToRead t.accountIdBefore = some id ∧ es = es₁ ++ es₂ ∧ writes es₁ = [] ∧
        readBefore? es =
          some (world (past ++ es₁) (.read .before t (t.uid id) t.namesToRead)) := by
  obtain ⟨es₀, es₁, es₂, outcome, rfl, hopening, hsame, hp, -⟩ := execute_parts h
  rcases propagate_cases hp with ⟨hn, -⟩ | ⟨-, es₃, es₄, read, rfl, hread, hp⟩
  · rw [hc] at hn
    simp at hn
  rw [yields_read] at hread
  rcases hid : idToRead t.accountIdBefore with _ | id <;> rw [hid] at hread
  · obtain ⟨-, rfl⟩ := hread
    rcases hp with ⟨_, hr, -⟩ | ⟨hr, -⟩
    · simp at hr
    · exact .inl ⟨rfl, (Except.ok.inj hr).symm⟩
  · obtain ⟨reply, rfl, -⟩ := hread
    have hreply := (answered_append.1 (answered_append.1 (answered_append.1 ha).2).1).1.1
    exact .inr ⟨id, es₀, _, rfl, rfl, writes_of_opening hopening,
      hsame.readBefore?.trans (congrArg some hreply)⟩

/-- A successful execution that is not to delete anything found the object as it should be, or had
its change accepted. -/
theorem execute_success {execution : Execution}
    (h : Yields (t.execute settings) es (.ok execution)) (hs : execution.status.isSuccessful)
    (hop : t.operation ≠ .delete) :
    hasConnector es ∧
      ((∃ o, objectBefore es = some o ∧ (t.wanted.difference o.fullAttributes).isEmpty ∧
          writes es = []) ∨
        ∃ es₁ e es₂, es = es₁ ++ e :: es₂ ∧ t.IsApplied e ∧ writes es₂ = []) := by
  cases execute_ends h with
  | settled well right _ =>
    refine ⟨(stopped_eq_false.1 (succeeded_iff.1 well).1).1, .inl ?_⟩
    obtain ⟨o, ho, hd, -⟩ := right.resolve_left fun hn => hop hn.1
    exact ⟨o, ho, hd, (execute_isSettled h right).1⟩
  | @changed _ e well made accepted _ =>
    have running := (succeeded_iff.1 well).1
    refine ⟨(stopped_eq_false.1 running).1, .inr ?_⟩
    obtain ⟨es₁, es₂, he⟩ := List.append_of_mem made
    have hw := writes_of_execute h
    have hcut : writes es = writes es₁ ++ e.request :: writes es₂ := by
      simp [he, writes, isWrite_of_isAccepted accepted]
    rw [running, if_neg Bool.false_ne_true, change?_of_ne_delete hop, hcut] at hw
    -- There is one call at most, so it is this one.
    rcases hc : t.request? (t.converge (objectBefore es)) with _ | call <;> rw [hc] at hw
    · simp at hw
    · obtain ⟨-, rfl, hw₂⟩ := by simpa [List.append_eq_singleton_iff] using hw
      exact ⟨es₁, e, es₂, he, ⟨accepted, call_of_converge hc⟩, hw₂⟩
  | failed _ ended =>
    rw [ended.status] at hs
    rcases hm : t.mode <;> simp [hm, ExecutionStatus.outcome, ExecutionStatus.isSuccessful] at hs

/-- A target system that does for a task what it is asked for: once it has accepted that the object
is created or updated, it has it under its account id as it should be, and no longer under a former
one. As long as nothing is written, what was there to be read stays. -/
structure Faithful (t : Task) (accountId : String) (world : Respondent Request Request.Answer) :
    Prop where
  applied {past es : ExecutionLog} {e : Exchange Request Request.Answer} : t.IsApplied e →
    e.reply = world past e.request → writes es = [] →
    ∃ o, world (past ++ e :: es) (.read .before t (t.uid accountId) t.namesToRead) = .ok (some o) ∧
      ∀ name v, t.wanted.get? name = some v → o.fullAttributes.holds name v
  renamed {past es : ExecutionLog} {e : Exchange Request Request.Answer} {old : String} :
    t.IsApplied e → e.reply = world past e.request → writes es = [] →
    t.oldAccountId = some old → old ≠ accountId →
    world (past ++ e :: es) (.read .before t (t.uid old) t.namesToRead) = .ok none
  stable {past es : ExecutionLog} {uid : Uid} {o : RemoteObject} : writes es = [] →
    world past (.read .before t uid t.namesToRead) = .ok (some o) →
    world (past ++ es) (.read .before t uid t.namesToRead) = .ok (some o)

variable {world : Respondent Request Request.Answer} {accountId : String} {past again : ExecutionLog}
  {r' : Except Fault Execution} {settings' : Settings}

theorem objectBefore_of_stable {o : RemoteObject} (hf : t.Faithful accountId world)
    (h : Yields (t.execute settings) es r) (ha : Answered world past es) (hc : hasConnector es)
    (h' : Yields (t.execute settings') again r') (ha' : Answered world (past ++ es) again)
    (hc' : hasConnector again) (ho : objectBefore es = some o) (hw : writes es = []) :
    objectBefore again = some o := by
  rcases readBefore_cases h ha hc with ⟨-, hn⟩ | ⟨id, es₁, es₂, hid, rfl, -, hr⟩
  · rw [ho] at hn
    simp at hn
  rcases readBefore_cases h' ha' hc' with ⟨hn, -⟩ | ⟨id', es₃, es₄, hid', rfl, hw₃, hr'⟩
  · rw [hid] at hn
    simp at hn
  obtain rfl : id = id' := Option.some.inj (hid.symm.trans hid')
  rw [objectBefore_eq_some] at ho ⊢
  rw [ho, Option.some.injEq] at hr
  rw [writes_append, List.append_eq_nil_iff] at hw
  have hs := hf.stable (writes_append_eq_nil hw.2 hw₃) hr.symm
  rw [hr', ← hs]
  simp

section Applied

variable {e : Exchange Request Request.Answer} {es₁ es₂ : ExecutionLog}

/-- What has been created or updated is found under its account id. -/
theorem objectBefore_of_applied (hf : t.Faithful accountId world)
    (hacc : t.accountId = some accountId) (hne : accountId ≠ "") (hre : ¬t.IsRename)
    (he : t.IsApplied e) (hreply : e.reply = world (past ++ es₁) e.request) (hw : writes es₂ = [])
    (h : Yields (t.execute settings) again r)
    (ha : Answered world (past ++ (es₁ ++ e :: es₂)) again) (hc : hasConnector again) :
    ∃ o, objectBefore again = some o ∧ (t.wanted.difference o.fullAttributes).isEmpty := by
  have hid : idToRead t.accountIdBefore = some accountId := by
    rw [idToRead_eq_some, accountIdBefore_of_not_isRename hacc hre]
    exact ⟨rfl, hne⟩
  rcases readBefore_cases h ha hc with ⟨hn, -⟩ | ⟨id, es₃, es₄, hid', rfl, hw₃, hr⟩
  · rw [hid] at hn
    simp at hn
  obtain rfl : accountId = id := Option.some.inj (hid.symm.trans hid')
  obtain ⟨o, ho, hheld⟩ := hf.applied he hreply (writes_append_eq_nil hw hw₃)
  refine ⟨o, ?_, AttributeSet.isEmpty_difference_iff.2 hheld⟩
  rw [objectBefore_eq_some, hr, ← ho]
  simp

/-- What has been renamed is not found under its former account id. -/
theorem objectBefore_of_renamed (hf : t.Faithful accountId world)
    (hacc : t.accountId = some accountId) (hre : t.IsRename)
    (he : t.IsApplied e) (hreply : e.reply = world (past ++ es₁) e.request) (hw : writes es₂ = [])
    (h : Yields (t.execute settings) again r)
    (ha : Answered world (past ++ (es₁ ++ e :: es₂)) again) (hc : hasConnector again) :
    objectBefore again = none := by
  obtain ⟨old, hold, hne⟩ := hre
  rcases readBefore_cases h ha hc with ⟨-, hn⟩ | ⟨id, es₃, es₄, hid, rfl, hw₃, hr⟩
  · exact hn
  rw [idToRead_eq_some, accountIdBefore, hold] at hid
  obtain rfl : old = id := Option.some.inj hid.1
  have ho := hf.renamed he hreply (writes_append_eq_nil hw hw₃) hold
    fun h => hne (by rw [hacc, h])
  rw [objectBefore, hr]
  simp only [List.append_assoc, List.cons_append] at ho ⊢
  rw [ho]

end Applied

/-- When a task that creates or updates asks for nothing as it is executed again. -/
theorem writes_again {execution : Execution} (hf : t.Faithful accountId world)
    (hop : t.operation ≠ .delete) (hacc : t.accountId = some accountId) (hne : accountId ≠ "")
    (h : Yields (t.execute settings) es (.ok execution)) (ha : Answered world past es)
    (hs : execution.status.isSuccessful)
    (h' : Yields (t.execute settings') again r) (ha' : Answered world (past ++ es) again) :
    (writes again = [] ↔ stopped again ∨ writes es = [] ∨ ¬t.IsRename ∨
      (t.operation = .create ∧ t.withoutValue ≠ [])) ∧
      (writes again ≠ [] → writes again = [.create t t.wanted]) := by
  have hw := writes_of_execute h'
  rw [change?_of_ne_delete hop] at hw
  by_cases hst : stopped again
  · rw [if_pos hst] at hw
    simp [hw, hst]
  rw [if_neg hst] at hw
  have hc' : hasConnector again := (stopped_eq_false.1 (by simpa using hst)).1
  obtain ⟨hc, ⟨o, ho, hd, hws⟩ | ⟨es₁, e, es₂, rfl, he, hws⟩⟩ := execute_success h hs hop
  · -- There was nothing to change, so there is nothing now.
    rw [objectBefore_of_stable hf h ha hc h' ha' hc' ho hws,
      converge_eq_nothing.2 ⟨o, rfl, hd⟩] at hw
    have hnothing : writes again = [] := hw
    simp [hnothing, hws]
  have hwritten : writes (es₁ ++ e :: es₂) ≠ [] := by
    rw [writes_append]
    simp [writes, isWrite_of_isAccepted he.accepted]
  have hreply : e.reply = world (past ++ es₁) e.request := (answered_append.1 ha).2.1
  by_cases hre : t.IsRename
  · rw [objectBefore_of_renamed hf hacc hre he hreply hws h' ha' hc'] at hw
    by_cases hv : t.operation = .create ∧ t.withoutValue ≠ []
    · rw [converge, if_pos hv] at hw
      have hrefused : writes again = [] := hw
      simp [hrefused, hv]
    · rw [converge, if_neg hv] at hw
      have hcreated : writes again = [.create t t.wanted] := hw
      rw [hcreated]
      simp only [List.cons_ne_nil, false_iff, implies_true, and_true]
      rintro (h | h | h | h)
      · exact hst h
      · exact hwritten h
      · exact h hre
      · exact hv h
  · -- The object is found under the account id that it has been written under.
    obtain ⟨o, ho, hd⟩ := objectBefore_of_applied hf hacc hne hre he hreply hws h' ha' hc'
    rw [ho, converge_eq_nothing.2 ⟨o, rfl, hd⟩] at hw
    have hnothing : writes again = [] := hw
    simp [hnothing, hre]

/-- A target system with one object, which stays as it was until a change makes another of it. -/
def oneObject (former current : RemoteObject) : Respondent Request Request.Answer
  | _, .now => ⟨0, 0⟩
  | _, .newEventId => ⟨0⟩
  | _, .actions _ => []
  | _, .connector _ => true
  | past, .read _ _ uid _ =>
    let object := if past.any isAccepted then current else former
    .ok (if uid.value = object.uid.value then some object else none)
  | _, .create _ _ => .ok current.uid
  | _, .update _ _ _ => .ok current.uid
  | _, .delete _ _ => .ok ()
  | _, .resourceNames _ _ => .ok []
  | _, .save _ => .ok ()
  | _, .append _ _ => .ok ⟨0⟩
  | _, .flush => .ok ()
  | _, .audit _ => .ok ()
  | _, .notify _ => .ok ()
  | _, .actBefore _ _ _ _ => .ok ()
  | _, .actAfter _ _ _ _ _ => .ok ()

theorem faithful_oneObject {former current : RemoteObject}
    (hd : (t.wanted.difference current.fullAttributes).isEmpty) :
    t.Faithful current.uid.value (oneObject former current) where
  applied {past es e} he _ _ := by
    refine ⟨current, ?_, AttributeSet.isEmpty_difference_iff.1 hd⟩
    simp [oneObject, he.accepted, uid]
  renamed {past es e old} he _ _ _ hne := by
    simp [oneObject, he.accepted, uid, hne]
  stable {past es uid o} hw ho := by
    have hes : es.any isAccepted = false :=
      List.any_eq_false.2 fun e he => by simp [not_isAccepted_of_writes hw he]
    simpa [oneObject, hes] using ho

/-- A task that is executed again, right after it was executed successfully, asks for nothing
exactly if it is stopped, or found nothing to change the first time, or is no rename, or refuses to
create an object. Else it creates the object again. -/
theorem execute_again {execution : Execution} (hf : t.Faithful accountId world)
    (hop : t.operation ≠ .delete) (hacc : t.accountId = some accountId) (hne : accountId ≠ "")
    (hr : ((t.execute settings).resume world past).1 = .ok execution)
    (hs : execution.status.isSuccessful) :
    let es : ExecutionLog := ((t.execute settings).resume world past).2
    let again : ExecutionLog := ((t.execute settings').resume world (past ++ es)).2
    (writes again = [] ↔ stopped again ∨ writes es = [] ∨ ¬t.IsRename ∨
      (t.operation = .create ∧ t.withoutValue ≠ [])) ∧
      (writes again ≠ [] → writes again = [.create t t.wanted]) := by
  intro es again
  have hy : Yields (t.execute settings) es (.ok execution) := by
    rw [← hr]
    exact yields_resume world _ past
  exact writes_again hf hop hacc hne hy (answered_resume world _ past) hs
    (yields_resume world _ (past ++ es)) (answered_resume world _ (past ++ es))

/-- Created under its account id the object is found there, and nothing is to change. -/
theorem execute_again_created :
    let t := toNew none
    let world := oneObject (named "old") (named "new")
    let first := (t.execute .default).resume world []
    let again := (t.execute .default).resume world first.2
    t.Faithful "new" world ∧ (∃ execution, first.1 = .ok execution ∧ execution.status.isSuccessful) ∧
      writes first.2 = [.create t t.wanted] ∧ writes again.2 = [] := by
  have hf : (toNew none).Faithful (named "new").uid.value
    (oneObject (named "old") (named "new")) := faithful_oneObject rfl
  have hre : ¬(toNew none).IsRename := by
    rintro ⟨_, h, -⟩
    simp [toNew] at h
  obtain ⟨execution, hr, hs⟩ : ∃ execution,
      (((toNew none).execute .default).resume (oneObject (named "old") (named "new")) []).1 =
        .ok execution ∧ execution.status.isSuccessful := ⟨_, rfl, rfl⟩
  exact ⟨hf, ⟨execution, hr, hs⟩, rfl,
    (execute_again hf (by decide) rfl (by decide) hr hs).1.2 (.inr (.inr (.inl hre)))⟩

/-- The object that was `old` becomes the one named `new`, and then another one is created. -/
theorem created_again_of_renamed :
    let t := toNew (some "old")
    let world := oneObject (named "old") (named "new")
    let first := (t.execute .default).resume world []
    let again := (t.execute .default).resume world first.2
    t.Faithful "new" world ∧ t.attributes.has passwordAttribute = false ∧
      t.attributes.has uidAttribute = false ∧
      (∃ execution, first.1 = .ok execution ∧ execution.status.isSuccessful) ∧
      writes first.2 = [.update t (.ofValue "old") t.wanted] ∧
      writes again.2 = [.create t t.wanted] := by
  have hf : (toNew (some "old")).Faithful (named "new").uid.value
    (oneObject (named "old") (named "new")) := faithful_oneObject rfl
  exact ⟨hf, rfl, rfl, ⟨_, rfl, rfl⟩, rfl, rfl⟩

end Task

end Provisioning
