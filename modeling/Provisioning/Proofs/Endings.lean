import Provisioning.Proofs.Writes

/-!
# How an execution ends

An execution ends in one of four ways (`execute_ends`): it is refused, before it has called anything
that others could see; it finds the object as it should be; its change is accepted; or it fails, as
it was stopped, the directory could not tell, or the change was not accepted. So the one error is
the refusal of a new object that lacks mandatory values, and everything else ends in an execution
that is over and says whether it went well (`execute_refuses`).
-/

namespace Provisioning

open Program ExecutionLog

namespace ExecutionLog

variable {es es₁ es₂ : ExecutionLog} {e : Exchange Request Request.Answer}

/-- Whether the directory was asked and could not tell which resources the subject has. -/
def isUntold (reply : Option (Except StoreError (List String))) : Bool :=
  match reply with
  | some (.error (.subjectNotFound _ _)) => false
  | some (.error _) => true
  | _ => false

/-- Whether nothing stood in the way of an execution: it was not stopped, the directory could tell,
and the call for a change was accepted. -/
def succeeded (es : ExecutionLog) : Bool :=
  !stopped es && !isUntold (directoryReply? es) &&
    es.all fun e => !e.request.isWrite || Task.isAccepted e

theorem succeeded_iff : succeeded es ↔ stopped es = false ∧ isUntold (directoryReply? es) = false ∧
    ∀ e ∈ es, e.request.isWrite → Task.isAccepted e := by
  simp [succeeded, and_assoc, ← Bool.not_eq_true, imp_iff_not_or]

theorem accepted_of_part (h₁ : writes es₁ = []) (h₂ : writes es₂ = [])
    (h : ∀ e ∈ es, e.request.isWrite → Task.isAccepted e) :
    ∀ e ∈ es₁ ++ (es ++ es₂), e.request.isWrite → Task.isAccepted e := by
  intro e he hw
  simp only [List.mem_append] at he
  rcases he with he | he | he
  · simp [not_isWrite_of_writes h₁ he] at hw
  · exact h e he hw
  · simp [not_isWrite_of_writes h₂ he] at hw

end ExecutionLog

namespace Task

variable {t : Task} {es : ExecutionLog} {object : Option RemoteObject}
  {reply : Option (Except StoreError (List String))} {settings : Settings}
  {r : Except Fault Execution}

/-- A new object would lack mandatory values. -/
def MustRefuse (t : Task) (object : Option RemoteObject) : Prop :=
  t.operation = .create ∧ object = none ∧ t.withoutValue ≠ []

/-- The object is as the task wants it: gone, or with the attributes of the task. -/
def IsSettled (t : Task) (object : Option RemoteObject)
    (reply : Option (Except StoreError (List String))) : Prop :=
  (t.operation = .delete ∧ object = none) ∨
    ∃ o, object = some o ∧ (t.wanted.difference o.fullAttributes).isEmpty ∧
      (t.operation ≠ .delete ∨ t.isAssigned reply)

theorem converge_eq_refuse {names : List String} :
    t.converge object = .refuse names ↔
      object = none ∧ t.operation = .create ∧ t.withoutValue ≠ [] ∧ names = t.withoutValue := by
  rcases object with _ | o <;> rw [converge] <;> split_ifs with h
  · simp [h, eq_comm]
  · simpa using fun ho hw => absurd ⟨ho, hw⟩ h
  · simp
  · simp

theorem MustRefuse.change? (h : t.MustRefuse object) : t.change? object reply = none := by
  obtain ⟨ho, rfl, hw⟩ := h
  rw [change?_of_ne_delete (by simp [ho]), converge, if_pos ⟨ho, hw⟩]
  rfl

theorem IsSettled.change? (h : t.IsSettled object reply) : t.change? object reply = none := by
  by_contra hne
  obtain ⟨call, hcall⟩ := Option.ne_none_iff_exists'.1 hne
  rcases change?_eq_some.1 hcall with ⟨hop, hc⟩ | ⟨o, hop, rfl, hc⟩
  · rcases h with ⟨hd, -⟩ | ⟨o, rfl, hempty, -⟩
    · exact hop hd
    · exact (request?_converge_some.1 hc).1 hempty
  · rcases h with ⟨-, hn⟩ | ⟨o', ho, hempty, hassigned⟩
    · simp at hn
    obtain rfl := Option.some.inj ho
    rcases hc with ⟨-, hc⟩ | ⟨hreleased, -⟩
    · exact (request?_converge_some.1 hc).1 hempty
    · obtain ⟨names, rfl, hmem⟩ := hassigned.resolve_left (not_not_intro hop)
      rcases hreleased with ⟨names', hn, hnmem⟩ | ⟨kind, key, hn⟩
      · simp only [Option.some.injEq, Except.ok.injEq] at hn
        exact hnmem (hn ▸ hmem)
      · simp at hn

theorem IsSettled.not_mustRefuse (h : t.IsSettled object reply) : ¬t.MustRefuse object := by
  rintro ⟨hop, rfl, -⟩
  rcases h with ⟨hd, -⟩ | ⟨o, ho, -⟩
  · simp [hop] at hd
  · simp at ho

/-- A decision is an error only if the directory could not tell, which it is asked for an object
that is there. -/
theorem decide_error {fault : Fault} (h : Yields (t.decide object) es (.error fault)) :
    t.operation = .delete ∧ object.isSome ∧ isUntold (directoryReply? es) ∧
      ∀ names, fault ≠ .validation names := by
  rcases decide_cases h with ⟨-, -, hr⟩ | ⟨-, -, -, hr⟩ | ⟨o, reply, hop, rfl, rfl, hr⟩
  · simp at hr
  · simp at hr
  rcases reply with (_ | _ | _) | names <;> simp only [verdict] at hr
  · obtain rfl := Except.error.inj hr
    exact ⟨hop, rfl, rfl, by simp⟩
  · obtain rfl := Except.error.inj hr
    exact ⟨hop, rfl, rfl, by simp⟩
  · simp at hr
  · split_ifs at hr

theorem decide_told {d : Decision} (h : Yields (t.decide object) es (.ok d)) :
    isUntold (directoryReply? es) = false := by
  rcases decide_cases h with ⟨-, rfl, -⟩ | ⟨-, -, rfl, -⟩ | ⟨o, reply, -, -, rfl, hr⟩
  · rfl
  · rfl
  rcases reply with (_ | _ | _) | names <;> first | rfl | simp [verdict] at hr

theorem decide_refuse {names : List String}
    (h : Yields (t.decide object) es (.ok (.refuse names))) :
    t.MustRefuse object ∧ names = t.withoutValue := by
  rcases decide_cases h with ⟨-, -, hr⟩ | ⟨-, -, -, hr⟩ | ⟨o, reply, -, -, -, hr⟩
  · obtain ⟨ho, hop, hw, hn⟩ := converge_eq_refuse.1 (Except.ok.inj hr).symm
    exact ⟨⟨hop, ho, hw⟩, hn⟩
  · simp at hr
  · have hne : t.converge (some o) ≠ .refuse names := fun hc => by
      simpa using (converge_eq_refuse.1 hc).1
    rcases reply with (_ | _ | _) | names' <;> simp only [verdict] at hr
    · simp at hr
    · simp at hr
    · simp at hr
    · split_ifs at hr
      · exact absurd (Except.ok.inj hr).symm hne
      · simp at hr

theorem decide_nothing (h : Yields (t.decide object) es (.ok .nothing)) :
    t.IsSettled object (directoryReply? es) := by
  rcases decide_cases h with ⟨hop, rfl, hr⟩ | ⟨hop, rfl, -, -⟩ | ⟨o, reply, -, rfl, rfl, hr⟩
  · obtain ⟨o, rfl, hd⟩ := converge_eq_nothing.1 (Except.ok.inj hr).symm
    exact .inr ⟨o, rfl, hd, .inl hop⟩
  · exact .inl ⟨hop, rfl⟩
  rcases reply with (_ | _ | _) | names <;> simp only [verdict] at hr
  · simp at hr
  · simp at hr
  · simp at hr
  · split_ifs at hr with hmem
    · obtain ⟨_, ho, hd⟩ := converge_eq_nothing.1 (Except.ok.inj hr).symm
      obtain rfl := Option.some.inj ho
      exact .inr ⟨o, rfl, hd, .inr ⟨names, rfl, by simpa using hmem⟩⟩
    · simp at hr

/-- What makes an execution fail. -/
inductive Fails (t : Task) (es : ExecutionLog) : Prop where
  | stopped (h : stopped es)
  | untold (hop : t.operation = .delete) (ho : (objectBefore es).isSome)
      (hreply : isUntold (directoryReply? es))
  | rejected {e : Exchange Request Request.Answer} (he : e ∈ es) (hw : e.request.isWrite)
      (h : isAccepted e = false)

theorem Fails.not_succeeded (h : t.Fails es) : succeeded es = false := by
  rw [← Bool.not_eq_true, succeeded_iff]
  rintro ⟨hs, htold, haccepted⟩
  cases h with
  | stopped h => simp [hs] at h
  | untold _ _ hreply => simp [htold] at hreply
  | rejected he hw h => simp [haccepted _ he hw] at h

/-- The ways in which an execution ends, with what its log shows. -/
inductive Ends (t : Task) (settings : Settings) (es : ExecutionLog) :
    Except Fault Execution → Prop where
  | refused (running : stopped es = false) (lacking : t.MustRefuse (objectBefore es))
      (silent : ∀ e ∈ es, e.request.isWrite = false ∧
        (e.request.isConcluding → e.request = .now)) :
      Ends t settings es (.error (.validation t.withoutValue))
  | settled {execution : Execution} (well : succeeded es)
      (right : t.IsSettled (objectBefore es) (directoryReply? es))
      (ended : t.IsEnded settings none execution) : Ends t settings es (.ok execution)
  | changed {execution : Execution} {e : Exchange Request Request.Answer} (well : succeeded es)
      (made : e ∈ es) (accepted : isAccepted e) (ended : t.IsEnded settings none execution) :
      Ends t settings es (.ok execution)
  | failed {execution : Execution} {fault : Fault} (cause : t.Fails es)
      (ended : t.IsEnded settings (some fault) execution) : Ends t settings es (.ok execution)

/-- An execution was stopped, or came to a decision about the object and, unless that failed,
carried it out; nothing else is written. -/
theorem execute_stages (h : Yields (t.execute settings) es r) :
    ∃ outcome, t.ResultsIn settings outcome r ∧
      ((stopped es = true ∧ ∃ fault, outcome = .error fault ∧ ∀ names, fault ≠ .validation names) ∨
        stopped es = false ∧ ∃ es₁ es₂ es₃ es₄ decided, es = es₁ ++ (es₂ ++ es₃) ∧
          writes es₁ = [] ∧ writes es₃ = [] ∧
          Yields (t.decide (objectBefore es)) es₄ decided ∧
          directoryReply? es = directoryReply? es₄ ∧
          ((∃ fault, decided = .error fault ∧ outcome = .error fault) ∨
            ∃ d, decided = .ok d ∧ Yields (t.carryOut d) es₂ outcome)) := by
  obtain ⟨es₀, es₁, es₂, outcome, he, hopening, hsame, hp, hconcluding, -, hr⟩ := execute_parts h
  rw [stopped, hsame.timedOut, hsame.failedFatally]
  refine ⟨outcome, hr, ?_⟩
  obtain ⟨-, -, -, -, ⟨hs, -, hfault⟩ | ⟨hs, es₃, es₄, es₅, decided, rfl, hd, hreply, hw, hc⟩⟩ :=
    propagate_stages hp
  · exact .inl ⟨hs, hfault⟩
  have hw₀ : writes es₀ = [] := writes_of_opening hopening
  have hw₂ : writes es₂ = [] := (Evidence.mk.inj (evidence_of_isConcluding hconcluding)).1
  simp only [writes_append, ← List.append_assoc, List.append_left_eq_self] at hw
  refine .inr ⟨hs, es₀ ++ (es₃ ++ es₄), es₅, es₂, es₄, decided, by simpa using he, ?_,
    hw₂, hd, hsame.directoryReply?.trans hreply, ?_⟩
  · rw [writes_append, hw₀, writes_append, hw, List.nil_append]
  · rcases hc with ⟨fault, hdecided, -, houtcome⟩ | hc
    · exact .inl ⟨fault, hdecided, houtcome⟩
    · exact .inr hc

theorem isConcluding_of_refused {fault : Fault}
    (h : Yields (t.execute settings) es (.error fault)) :
    ∀ e ∈ es, e.request.isConcluding → e.request = .now := by
  obtain ⟨es₀, es₁, es₂, outcome, he, hopening, -, hp, -, hnil, -⟩ := execute_parts h
  obtain rfl := hnil fault rfl
  intro e hmem hc
  rw [he, List.append_nil] at hmem
  rcases List.mem_append.1 hmem with hmem | hmem
  · have hopened : e.request ∈ [.now, .actions t.resource, .connector t.resource] :=
      hopening ▸ List.mem_map_of_mem hmem
    have hasked : e.request = .now ∨ e.request = .actions t.resource ∨
        e.request = .connector t.resource := by simpa using hopened
    rcases hasked with hr | hr | hr
    · exact hr
    · simp [hr, Request.isConcluding] at hc
    · simp [hr, Request.isConcluding] at hc
  · have hn := asks_propagate _ _ hp e hmem
    simp [hc] at hn

theorem execute_ends (h : Yields (t.execute settings) es r) : t.Ends settings es r := by
  obtain ⟨outcome, hr, ⟨hs, fault, rfl, hfault⟩ | ⟨hs, es₁, es₂, es₃, es₄, decided, he, hw₁, hw₃, hd,
    hreply, hc⟩⟩ := execute_stages h
  · obtain ⟨execution, rfl, ended⟩ := hr.exists_failed hfault
    exact .failed (.stopped hs) ended
  rcases hc with ⟨fault, rfl, rfl⟩ | ⟨d, rfl, hc⟩
  · obtain ⟨hop, hobject, huntold, hfault⟩ := decide_error hd
    obtain ⟨execution, rfl, ended⟩ := hr.exists_failed hfault
    exact .failed (.untold hop hobject (hreply ▸ huntold)) ended
  have htold : isUntold (directoryReply? es) = false := hreply ▸ decide_told hd
  have hwell (h₂ : ∀ e ∈ es₂, e.request.isWrite → isAccepted e) : succeeded es :=
    succeeded_iff.2 ⟨hs, htold, he ▸ accepted_of_part hw₁ hw₃ h₂⟩
  rcases carryOut_cases hc with ⟨names, rfl, rfl, rfl⟩ | ⟨rfl, rfl, rfl⟩ | ⟨call, hcall, rfl, ho⟩
  · obtain ⟨lacking, rfl⟩ := decide_refuse hd
    cases hr with
    | refused _ =>
      have hw : writes es = [] := by
        rw [he, writes_append, hw₁, List.nil_append, List.nil_append, hw₃]
      exact .refused hs lacking fun e hmem =>
        ⟨not_isWrite_of_writes hw hmem, isConcluding_of_refused h e hmem⟩
    | failed hfault _ => exact absurd rfl (hfault _)
  · cases hr with
    | concluded ended => exact .settled (hwell (by simp)) (hreply ▸ decide_nothing hd) ended
  · have hmem : call ∈ es := by simp [he]
    rcases ho with ⟨accepted, rfl⟩ | ⟨rejected, error, rfl⟩
    · cases hr with
      | concluded ended => exact .changed (hwell (by simp [accepted])) hmem accepted ended
    · obtain ⟨execution, rfl, ended⟩ := hr.exists_failed ofConnector_ne_validation
      exact .failed (.rejected hmem (isWrite_of_request? hcall) rejected) ended

/-- What an execution that is over says about itself by whether it succeeded. -/
theorem Ends.isEnded {execution : Execution} (h : t.Ends settings es (.ok execution)) :
    ∃ fault, t.IsEnded settings fault execution ∧ fault.isNone = succeeded es := by
  cases h with
  | settled well _ ended => exact ⟨none, ended, well.symm⟩
  | changed well _ _ ended => exact ⟨none, ended, well.symm⟩
  | failed cause ended => exact ⟨_, ended, cause.not_succeeded.symm⟩

theorem not_mustRefuse_of_isWrite {e : Exchange Request Request.Answer}
    (h : Yields (t.execute settings) es r) (he : e ∈ es) (hw : e.request.isWrite) :
    ¬t.MustRefuse (objectBefore es) ∧ ¬t.IsSettled (objectBefore es) (directoryReply? es) := by
  have hmem := mem_writes he hw
  rw [writes_of_execute h] at hmem
  split_ifs at hmem
  · simp at hmem
  · refine ⟨fun hn => ?_, fun hn => ?_⟩ <;> simp [hn.change?] at hmem

/-- An execution that finds the object as it should be writes nothing, and succeeds unless it was
stopped. -/
theorem execute_isSettled (h : Yields (t.execute settings) es r)
    (right : t.IsSettled (objectBefore es) (directoryReply? es)) :
    writes es = [] ∧
      ∃ execution, r = .ok execution ∧ execution.status = .outcome t.mode (!stopped es) := by
  have hw : writes es = [] := by
    rw [writes_of_execute h, right.change?]
    split_ifs <;> rfl
  refine ⟨hw, ?_⟩
  have running {execution : Execution} (well : succeeded es)
      (ended : t.IsEnded settings none execution) :
      execution.status = .outcome t.mode (!stopped es) := by
    rw [ended.status, (succeeded_iff.1 well).1]
    rfl
  cases execute_ends h with
  | refused _ lacking _ => exact absurd lacking right.not_mustRefuse
  | settled well _ ended => exact ⟨_, rfl, running well ended⟩
  | changed well _ _ ended => exact ⟨_, rfl, running well ended⟩
  | failed cause ended =>
    refine ⟨_, rfl, ?_⟩
    cases cause with
    | stopped hs =>
      rw [ended.status, hs]
      rfl
    | rejected he hn _ => simp [not_isWrite_of_writes hw he] at hn
    | untold hop ho hreply =>
      rcases right with ⟨-, hn⟩ | ⟨o, -, -, hassigned⟩
      · simp [hn] at ho
      · obtain ⟨names, hn, -⟩ := hassigned.resolve_left (not_not_intro hop)
        simp [hn, isUntold] at hreply

/-- An execution is an error exactly if it was not stopped and must refuse. -/
theorem execute_error_iff (h : Yields (t.execute settings) es r) :
    (∃ fault, r = .error fault) ↔ stopped es = false ∧ t.MustRefuse (objectBefore es) := by
  constructor
  · rintro ⟨fault, rfl⟩
    cases execute_ends h with
    | refused running lacking _ => exact ⟨running, lacking⟩
  · rintro ⟨running, lacking⟩
    cases execute_ends h with
    | refused _ _ _ => exact ⟨_, rfl⟩
    | settled _ right _ => exact absurd lacking right.not_mustRefuse
    | changed _ made accepted _ =>
      exact absurd lacking (not_mustRefuse_of_isWrite h made (isWrite_of_isAccepted accepted)).1
    | failed cause _ =>
      cases cause with
      | stopped hs => simp [running] at hs
      | untold _ ho _ => simp [lacking.2.1] at ho
      | rejected he hw _ => exact absurd lacking (not_mustRefuse_of_isWrite h he hw).1

theorem execute_error {fault : Fault} (h : Yields (t.execute settings) es (.error fault)) :
    fault = .validation t.withoutValue ∧
      ∀ e ∈ es, e.request.isWrite = false ∧ (e.request.isConcluding → e.request = .now) := by
  cases execute_ends h with
  | refused _ _ silent => exact ⟨rfl, silent⟩

end Task

end Provisioning
