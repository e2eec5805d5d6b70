import Provisioning.Password.CharacterClass

/-!
# Shapes of passwords

Passwords that are made for one policy have in common how long they are, and which classes of
characters they have at each place. A shape only describes passwords that are there already: nothing
that is decided about a password rests on it.
-/

namespace Provisioning

structure PasswordShape where
  /-- The lengths that occur, ascending. -/
  lengths : List Nat
  /-- The classes that occur at each place. -/
  places : List (List CharacterClass)
  /-- Whether the passwords are not all the same. -/
  varied : Bool

namespace PasswordShape

/-- The classes of the characters of a password. -/
def classes (password : String) : Array (Option CharacterClass) :=
  (password.toList.map CharacterClass.of?).toArray

/-- Whether a class occurs at a place. -/
def occurs (samples : List (Array (Option CharacterClass))) (place : Nat) (k : CharacterClass) :
    Bool :=
  samples.any fun s => s[place]? == some (some k)

def ofList (passwords : List String) : PasswordShape :=
  let samples := passwords.map classes
  let longest := (samples.map Array.size).foldl max 0
  { lengths := (List.range (longest + 1)).filter fun n => samples.any fun s => s.size == n
    places := (List.range longest).map fun i => CharacterClass.all.filter (occurs samples i)
    varied := passwords.any fun p => passwords.head? != some p }

end PasswordShape

end Provisioning
