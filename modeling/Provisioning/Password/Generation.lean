import Provisioning.Password.Policy

/-!
# Making passwords

A password is made for a merged policy, of its minimal length. Each place first gets a class: the
two ends one that may stand there, a required one if possible, then every class still required the
first free place, and all other places letters. When no place is free the password grows by one, up
to its maximal length; an end with a class of its own stays the last place.

Then each place gets a character of its class. While the password starts or ends in a forbidden way
that end is drawn anew, a bounded number of times.

All chance is in `Draws`: one number for each choice that may have to be made, so that equal draws
give equal passwords.
-/

namespace Provisioning

/-- The numbers that decide all choices. -/
structure Draws where
  /-- Picks the class of the first place. -/
  start : Nat
  /-- Picks the class of the last place. -/
  finish : Nat
  /-- Whether a place that may have any class gets an upper-case letter. -/
  upper : Nat → Bool
  /-- Picks the character of a place. -/
  character : Nat → Nat
  /-- Picks the first character again, after so many attempts. -/
  first : Nat → Nat
  /-- Picks the last character again, after so many attempts. -/
  last : Nat → Nat

namespace Draws

/-- Spreads a number over sixty-four bits, so that neighbours have little in common. -/
def spread (n : UInt64) : UInt64 :=
  let z := n * 0x9E3779B97F4A7C15
  let z := (z ^^^ (z >>> 30)) * 0xBF58476D1CE4E5B9
  let z := (z ^^^ (z >>> 27)) * 0x94D049BB133111EB
  z ^^^ (z >>> 31)

/-- A number for a purpose and a place. -/
def number (seed : UInt64) (purpose : UInt64) (place : Nat) : Nat :=
  (spread (spread (spread (seed + 1) + purpose) + .ofNat place) >>> 11).toNat

/-- Draws that look random and depend on a seed alone. -/
def ofSeed (seed : UInt64) : Draws where
  start := number seed 1 0
  finish := number seed 2 0
  upper i := number seed 3 i % 2 == 0
  character := number seed 4
  first := number seed 5
  last := number seed 6

end Draws

namespace PasswordPolicy

/-- The classes in both lists, where a missing list stands for all classes. -/
def meet : Option (List CharacterClass) → Option (List CharacterClass) →
    Option (List CharacterClass)
  | none, other => other
  | other, none => other
  | some l, some r => some (l.filter r.contains)

/-- The first of the allowed classes that is still required, else the one that a number picks. There
is none to pick when no class is allowed. -/
def pickClass? (allowed required : List CharacterClass) (draw : Nat) : Option CharacterClass :=
  match allowed.find? required.contains with
  | some k => some k
  | none => allowed[draw % allowed.length]?

/-- The places of a password under construction, and the classes still required. -/
structure Plan where
  slots : List (Option CharacterClass)
  required : List CharacterClass

/-- Gives a place to one of the allowed classes. -/
def Plan.fix (plan : Plan) (allowed : List CharacterClass) (draw place : Nat) : Option Plan := do
  let k ← pickClass? allowed plan.required draw
  return ⟨plan.slots.set place (some k), plan.required.filter fun r => r != k⟩

def noStart : PolicyError := .unsatisfiable "no character class satisfies the start constraints"

def noEnd : PolicyError := .unsatisfiable "no character class satisfies the end constraints"

def noRoom : PolicyError :=
  .unsatisfiable "required character classes do not fit in the maximum length"

def noAffix : PolicyError :=
  .unsatisfiable "forbidden prefixes or suffixes could not be avoided"

/-- Gives an end of the password a class, unless every class is allowed there. -/
def Plan.fixEnd (plan : Plan) (allowed : Option (List CharacterClass)) (draw place : Nat)
    (refusal : PolicyError) : Except PolicyError Plan :=
  match allowed with
  | none => .ok plan
  | some allowed =>
    match plan.fix allowed draw place with
    | some plan => .ok plan
    | none => .error refusal

/-- Gives a class the first free place, or a new one. A last place that is fixed stays last. -/
def placeClass (maxLength : Nat) (lastFixed : Bool) (slots : List (Option CharacterClass))
    (k : CharacterClass) : Except PolicyError (List (Option CharacterClass)) :=
  match slots.findIdx? Option.isNone with
  | some i => .ok (slots.set i (some k))
  | none =>
    if slots.length < maxLength then
      .ok (slots.insertIdx (if lastFixed then slots.length - 1 else slots.length) (some k))
    else .error noRoom

/-- The classes allowed at the two ends of a password of a length. A single place is the first and
the last at once. -/
def ends (p : PasswordPolicy) (length : Nat) :
    Option (List CharacterClass) × Option (List CharacterClass) :=
  if length = 1 then (meet p.start.classes? p.finish.classes?, none)
  else (p.start.classes?, p.finish.classes?)

/-- The places of a password with the classes that they must have. -/
def slots (p : PasswordPolicy) (draws : Draws) :
    Except PolicyError (List (Option CharacterClass)) := do
  let length := p.minLength.toNat
  let (start, finish) := p.ends length
  let plan : Plan := ⟨List.replicate length none, p.requiredClasses⟩
  let plan ← plan.fixEnd start draws.start 0 noStart
  let plan ← plan.fixEnd finish draws.finish (length - 1) noEnd
  plan.required.foldlM (placeClass p.maxLength.toNat finish.isSome) plan.slots

/-- Letters for the places without a class. -/
def fill (draws : Draws) (slots : List (Option CharacterClass)) : List CharacterClass :=
  slots.mapIdx fun i slot => slot.getD (if draws.upper i then .upper else .lower)

/-- A character for each place. -/
def write (draws : Draws) (classes : List CharacterClass) : List Char :=
  classes.mapIdx fun i k => k.pick (draws.character i)

/-- Draws the character of a place anew. -/
def redraw (classes : List CharacterClass) (place draw : Nat) (cs : List Char) : List Char :=
  match classes[place]? with
  | some k => cs.set place (k.pick draw)
  | none => cs

/-- Draws the ends anew as long as they are forbidden, `left` times at most. -/
def settle (p : PasswordPolicy) (draws : Draws) (classes : List CharacterClass) :
    Nat → Nat → List Char → Except PolicyError (List Char)
  | 0, _, _ => .error noAffix
  | left + 1, attempt, cs =>
    let badStart := p.startsBadly cs
    let badEnd := p.endsBadly cs
    if !badStart && !badEnd then .ok cs
    else
      let cs := if badStart then redraw classes 0 (draws.first attempt) cs else cs
      let cs := if badEnd then redraw classes (cs.length - 1) (draws.last attempt) cs else cs
      settle p draws classes left (attempt + 1) cs

/-- A password for a policy. -/
def generate (p : PasswordPolicy) (retries : UInt32) (draws : Draws) :
    Except PolicyError String := do
  p.check
  let classes := fill draws (← p.slots draws)
  let cs ← p.settle draws classes (retries.toNat + 1) 0 (write draws classes)
  return String.ofList cs

/-- A password for several policies together. -/
def generateFor (policies : List PasswordPolicy) (retries : UInt32) (draws : Draws) :
    Except PolicyError String :=
  (merge policies).generate retries draws

end PasswordPolicy

end Provisioning
