import Mathlib.Tactic.Common
import Provisioning.Program

/-!
# Runs of programs

A run of a program is the list of its exchanges with the value it ends with: `Yields` says which
runs a program has, whatever the world answers, and `yields_bind` takes the run of a sequence apart.
A world that answers by what was exchanged before picks one of the runs (`yields_resume`), in which
every reply is the world's own (`answered_resume`).
-/

namespace Provisioning

/-- A sequence succeeds if its first part does and then its second. -/
theorem bind_eq_ok {ε α β : Type} {x : Except ε α} {f : α → Except ε β} {y : β} :
    (x >>= f) = .ok y ↔ ∃ a, x = .ok a ∧ f a = .ok y := by
  rcases x with e | a
  · simp [bind, Except.bind]
  · simp [bind, Except.bind]

namespace Program

variable {ρ : Type} {answer : ρ → Type} {α β : Type}

/-- The program can have these exchanges and then end with this value. -/
inductive Yields : Program ρ answer α → List (Exchange ρ answer) → α → Prop
  | done (x : α) : Yields (.done x) [] x
  | ask {r : ρ} {next : answer r → Program ρ answer α} {reply : answer r}
      {es : List (Exchange ρ answer)} {x : α} :
      Yields (next reply) es x → Yields (.ask r next) (⟨r, reply⟩ :: es) x

theorem yields_pure {x y : α} {es : List (Exchange ρ answer)} :
    Yields (pure x : Program ρ answer α) es y ↔ es = [] ∧ y = x := by
  constructor
  · intro h
    cases h
    exact ⟨rfl, rfl⟩
  · rintro ⟨rfl, rfl⟩
    exact .done y

theorem yields_ask {r : ρ} {next : answer r → Program ρ answer α}
    {es : List (Exchange ρ answer)} {x : α} :
    Yields (.ask r next) es x ↔ ∃ reply es', es = ⟨r, reply⟩ :: es' ∧ Yields (next reply) es' x := by
  constructor
  · intro h
    cases h with
    | ask h => exact ⟨_, _, rfl, h⟩
  · rintro ⟨reply, es', rfl, h⟩
    exact .ask h

/-- A run of a sequence is a run of its first part, then one of its second. -/
theorem yields_bind {f : α → Program ρ answer β} {y : β} :
    ∀ {p : Program ρ answer α} {es : List (Exchange ρ answer)},
      Yields (p >>= f) es y ↔
        ∃ es₁ es₂ x, es = es₁ ++ es₂ ∧ Yields p es₁ x ∧ Yields (f x) es₂ y
  | .done x, es => by
    constructor
    · intro h
      exact ⟨[], es, x, rfl, .done x, h⟩
    · rintro ⟨es₁, es₂, x, rfl, h₁, h₂⟩
      cases h₁
      exact h₂
  | .ask r next, es => by
    change Yields (.ask r fun a => next a >>= f) es y ↔ _
    rw [yields_ask]
    constructor
    · rintro ⟨reply, es', rfl, h⟩
      obtain ⟨es₁, es₂, x, rfl, h₁, h₂⟩ := yields_bind.1 h
      exact ⟨_, es₂, x, rfl, .ask h₁, h₂⟩
    · rintro ⟨es₁, es₂, x, rfl, h₁, h₂⟩
      cases h₁ with
      | ask h₁ => exact ⟨_, _, rfl, yields_bind.2 ⟨_, es₂, x, rfl, h₁, h₂⟩⟩

theorem yields_request_bind {r : ρ} {f : answer r → Program ρ answer β}
    {es : List (Exchange ρ answer)} {y : β} :
    Yields (request r >>= f) es y ↔
      ∃ reply es', es = ⟨r, reply⟩ :: es' ∧ Yields (f reply) es' y :=
  yields_ask

/-- Whatever the world answers, the program asks only for such things. -/
def Asks (P : ρ → Prop) (p : Program ρ answer α) : Prop :=
  ∀ es x, p.Yields es x → ∀ e ∈ es, P e.request

theorem asks_pure {P : ρ → Prop} {x : α} : (pure x : Program ρ answer α).Asks P := by
  intro es y h e he
  obtain ⟨rfl, -⟩ := yields_pure.1 h
  simp at he

theorem asks_request_bind {P : ρ → Prop} {r : ρ} {f : answer r → Program ρ answer α} (hr : P r)
    (hf : ∀ reply, (f reply).Asks P) : (request r >>= f).Asks P := by
  intro es y h e he
  obtain ⟨reply, es', rfl, hn⟩ := yields_request_bind.1 h
  rcases List.mem_cons.1 he with rfl | he
  · exact hr
  · exact hf reply _ _ hn _ he

theorem asks_bind {P : ρ → Prop} {p : Program ρ answer α} {f : α → Program ρ answer β}
    (hp : p.Asks P) (hf : ∀ x, (f x).Asks P) : (p >>= f).Asks P := by
  intro es y h e he
  obtain ⟨es₁, es₂, x, rfl, h₁, h₂⟩ := yields_bind.1 h
  rcases List.mem_append.1 he with he | he
  · exact hp _ _ h₁ _ he
  · exact hf x _ _ h₂ _ he

theorem Asks.next {P : ρ → Prop} {r : ρ} {f : answer r → Program ρ answer α}
    (h : (Program.ask r f).Asks P) (reply : answer r) : (f reply).Asks P :=
  fun _ _ hy _ he => h _ _ (.ask hy) _ (List.mem_cons_of_mem _ he)

/-- Two runs of a program are the same if the world replies alike to all that it asks for. -/
theorem Yields.unique {P : ρ → Prop} {p : Program ρ answer α} {es₁ es₂ : List (Exchange ρ answer)}
    {x₁ x₂ : α} (h₁ : p.Yields es₁ x₁) (h₂ : p.Yields es₂ x₂) (hp : p.Asks P)
    (alike : ∀ r (a₁ a₂ : answer r), P r → ⟨r, a₁⟩ ∈ es₁ → ⟨r, a₂⟩ ∈ es₂ → a₁ = a₂) :
    es₁ = es₂ ∧ x₁ = x₂ := by
  induction h₁ generalizing es₂ with
  | done x =>
    cases h₂
    exact ⟨rfl, rfl⟩
  | @ask r next reply es x hy ih =>
    obtain ⟨reply₂, es, rfl, hn⟩ := yields_ask.1 h₂
    obtain rfl : reply = reply₂ :=
      alike r _ _ (hp _ _ h₂ _ List.mem_cons_self) List.mem_cons_self List.mem_cons_self
    obtain ⟨rfl, rfl⟩ := ih hn (hp.next reply) fun r a₁ a₂ hr h₁ h₂ =>
      alike r a₁ a₂ hr (List.mem_cons_of_mem _ h₁) (List.mem_cons_of_mem _ h₂)
    exact ⟨rfl, rfl⟩

theorem run_bind {σ : Type} {world : (r : ρ) → σ → answer r × σ} {f : α → Program ρ answer β} :
    ∀ {p : Program ρ answer α} {s : σ},
      (p >>= f).run world s = (f (p.run world s).1).run world (p.run world s).2
  | .done _, _ => rfl
  | .ask _ next, _ => run_bind (p := next _)

theorem run_request_bind {σ : Type} {world : (r : ρ) → σ → answer r × σ} {r : ρ}
    {f : answer r → Program ρ answer β} {s : σ} :
    (request r >>= f).run world s = (f (world r s).1).run world (world r s).2 :=
  rfl

/-- A world with a state picks one of the runs too. -/
theorem yields_run {σ : Type} (world : (r : ρ) → σ → answer r × σ) :
    ∀ (p : Program ρ answer α) (s : σ), ∃ es, p.Yields es (p.run world s).1
  | .done x, _ => ⟨[], .done x⟩
  | .ask _ next, s => by
    obtain ⟨es, h⟩ := yields_run world (next _) (world _ s).2
    exact ⟨_, .ask h⟩

/-- The value and the exchanges of a program in a world where something was exchanged before. -/
def resume (world : Respondent ρ answer) (past : List (Exchange ρ answer)) :
    Program ρ answer α → α × List (Exchange ρ answer)
  | .done x => (x, [])
  | .ask r next =>
    let e : Exchange ρ answer := ⟨r, world past r⟩
    let (x, es) := resume world (past ++ [e]) (next e.reply)
    (x, e :: es)

theorem resume_bind (world : Respondent ρ answer) {f : α → Program ρ answer β} :
    ∀ (p : Program ρ answer α) (past : List (Exchange ρ answer)),
      (p >>= f).resume world past =
        (((f (p.resume world past).1).resume world (past ++ (p.resume world past).2)).1,
          (p.resume world past).2 ++
            ((f (p.resume world past).1).resume world (past ++ (p.resume world past).2)).2)
  | .done x, past => by
    show (f x).resume world past = _
    simp [resume]
  | .ask r next, past => by
    show resume world past (.ask r fun a => next a >>= f) = _
    simp [resume, resume_bind world (next _)]

theorem run_eq_resume (world : Respondent ρ answer) :
    ∀ (p : Program ρ answer α) (past : List (Exchange ρ answer)),
      p.run (fun r past => (world past r, past ++ [⟨r, world past r⟩])) past =
        ((p.resume world past).1, past ++ (p.resume world past).2)
  | .done x, past => by simp [run, resume]
  | .ask r next, _ => by simp [run, resume, run_eq_resume world (next _)]

theorem trace_eq_resume (world : Respondent ρ answer) (p : Program ρ answer α) :
    p.trace world = p.resume world [] :=
  run_eq_resume world p []

/-- The replies are those of the world after what was exchanged before. -/
def Answered (world : Respondent ρ answer) :
    List (Exchange ρ answer) → List (Exchange ρ answer) → Prop
  | _, [] => True
  | past, e :: es => e.reply = world past e.request ∧ Answered world (past ++ [e]) es

theorem yields_resume (world : Respondent ρ answer) :
    ∀ (p : Program ρ answer α) (past : List (Exchange ρ answer)),
      p.Yields (p.resume world past).2 (p.resume world past).1
  | .done x, _ => .done x
  | .ask _ next, _ => .ask (yields_resume world (next _) _)

theorem yields_trace (world : Respondent ρ answer) (p : Program ρ answer α) :
    p.Yields (p.trace world).2 (p.trace world).1 := by
  rw [trace_eq_resume]
  exact yields_resume world p []

theorem answered_resume (world : Respondent ρ answer) :
    ∀ (p : Program ρ answer α) (past : List (Exchange ρ answer)),
      Answered world past (p.resume world past).2
  | .done _, _ => trivial
  | .ask _ next, _ => ⟨rfl, answered_resume world (next _) _⟩

theorem Answered.reply_of_mem {world : Respondent ρ answer} {r : ρ} {reply : answer r} :
    ∀ {past es : List (Exchange ρ answer)}, Answered world past es → ⟨r, reply⟩ ∈ es →
      ∃ past', reply = world past' r
  | _, [], _, h => absurd h List.not_mem_nil
  | past, e :: es, ⟨he, hes⟩, h => by
    rcases List.mem_cons.1 h with rfl | h
    · exact ⟨past, he⟩
    · exact hes.reply_of_mem h

theorem answered_append {world : Respondent ρ answer} :
    ∀ {past es es' : List (Exchange ρ answer)},
      Answered world past (es ++ es') ↔ Answered world past es ∧ Answered world (past ++ es) es'
  | _, [], _ => by simp [Answered]
  | _, _ :: _, _ => by
    simp only [List.cons_append, Answered, answered_append, and_assoc, List.append_assoc,
      List.nil_append]

end Program

end Provisioning
