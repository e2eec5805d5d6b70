import Provisioning.Json.Record

/-!
# Types whose values are words

A type with a handful of values gives each of them a word, by which it is shown, stored and read.
-/

namespace Provisioning

class Worded (α : Type) where
  all : List α
  word : α → String

export Worded (word)

variable {α : Type} [Worded α]

/-- The value with a word. -/
def ofWord? (s : String) : Option α :=
  Worded.all.find? fun x => word x == s

instance : ToJson α := ⟨fun x => .str (word x)⟩

instance : FromJson α := ⟨word? ofWord?⟩

end Provisioning
