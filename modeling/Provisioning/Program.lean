/-!
# Programs that ask

A program computes a value and may on its way ask something of the world around it; what it does
next depends on the answer. Nothing is said about the world: a program runs in any world that turns
a request and a state into an answer and the next state.
-/

namespace Provisioning

inductive Program (ρ : Type) (answer : ρ → Type) (α : Type) : Type where
  | done (value : α)
  | ask (request : ρ) (next : answer request → Program ρ answer α)

namespace Program

variable {ρ : Type} {answer : ρ → Type} {α β σ : Type}

/-- Goes on with what the value of a program leads to. -/
def bind : Program ρ answer α → (α → Program ρ answer β) → Program ρ answer β
  | .done x, f => f x
  | .ask r next, f => .ask r fun a => (next a).bind f

instance : Monad (Program ρ answer) where
  pure := .done
  bind := bind

/-- Asks one thing. -/
def request (r : ρ) : Program ρ answer (answer r) :=
  .ask r .done

/-- Runs a program in a world with a state. -/
def run (world : (r : ρ) → σ → answer r × σ) : Program ρ answer α → σ → α × σ
  | .done x, s => (x, s)
  | .ask r next, s => (next (world r s).1).run world (world r s).2

end Program

/-- A request with its answer. -/
structure Exchange (ρ : Type) (answer : ρ → Type) where
  request : ρ
  reply : answer request

namespace Program

variable {ρ : Type} {answer : ρ → Type} {α : Type}

/-- A world of which nothing is known but that it answers, by all that was asked before. -/
abbrev Respondent (ρ : Type) (answer : ρ → Type) :=
  List (Exchange ρ answer) → (r : ρ) → answer r

/-- The value of a program and all its exchanges, in order. -/
def trace (world : Respondent ρ answer) (p : Program ρ answer α) :
    α × List (Exchange ρ answer) :=
  p.run (fun r past => (world past r, past ++ [⟨r, world past r⟩])) []

end Program

end Provisioning
