/-!
# Character classes

Passwords are made of letters, upper and lower case, digits and special characters, all of them
ASCII. A character may belong to no class. Where the kind of a character matters by its place, the
two cases of letters count as one.
-/

namespace Provisioning

inductive CharacterClass where
  | upper
  | lower
  | digit
  | special
  deriving DecidableEq, Repr

namespace CharacterClass

def all : List CharacterClass :=
  [.upper, .lower, .digit, .special]

def alphabet : CharacterClass → List Char
  | .upper => "ABCDEFGHIJKLMNOPQRSTUVWXYZ".toList
  | .lower => "abcdefghijklmnopqrstuvwxyz".toList
  | .digit => "0123456789".toList
  | .special => "!@#$%^&*()_+-=[]\x7b\x7d|;:,.<>?".toList

/-- The class of a character. -/
def of? (c : Char) : Option CharacterClass :=
  all.find? fun k => k.alphabet.contains c

/-- The character of a class that a number picks. -/
def pick (k : CharacterClass) (n : Nat) : Char :=
  k.alphabet.getD (n % k.alphabet.length) 'a'

end CharacterClass

end Provisioning
