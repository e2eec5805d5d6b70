import Provisioning.Virtual.Refresh

/-!
# Simulated lookups of virtual attributes

A cache answers together with the source behind it, and every exchange with the two is written
down.
-/

namespace Provisioning.Simulation

structure Lookups where
  /-- The source; without one nothing is known. -/
  source : Option VirtualSource
  cache : VirtualCache
  log : List (Exchange VirtualRequest VirtualRequest.Answer)

namespace Lookups

def answer (r : VirtualRequest) (l : Lookups) : r.Answer × Lookups :=
  let (reply, cache) := VirtualCache.answer (l.source.getD fun _ => .ok none) r l.cache
  (reply, { l with cache := cache, log := l.log ++ [⟨r, reply⟩] })

/-- Runs a program with an empty log. -/
def perform {α : Type} (l : Lookups) (p : VirtualProgram α) : α × Lookups :=
  p.run answer { l with log := [] }

end Lookups

end Provisioning.Simulation
