import Provisioning.Json.Record
import Provisioning.Password.CharacterClass

/-!
# Password policies

A policy bounds the length of a password, requires classes of characters, restricts the classes at
its first and last place, and forbids ways to start or end. A length of zero sets no bound.

Policies that apply together are merged into one: the largest minimum, the smallest maximum that is
set, and everything that any of them asks for or forbids.
-/

namespace Provisioning

/-- What may stand at one end of a password. -/
structure Placement where
  mustAlpha : Bool
  mustDigit : Bool
  mustSpecial : Bool
  mustntAlpha : Bool
  mustntDigit : Bool
  mustntSpecial : Bool
  deriving DecidableEq, Repr

namespace Placement

def free : Placement := ⟨false, false, false, false, false, false⟩

/-- Whether one of the classes is asked for. -/
def demands (p : Placement) : Bool :=
  p.mustAlpha || p.mustDigit || p.mustSpecial

/-- Whether one of the classes is ruled out. -/
def forbids (p : Placement) : Bool :=
  p.mustntAlpha || p.mustntDigit || p.mustntSpecial

def must (p : Placement) : CharacterClass → Bool
  | .upper => p.mustAlpha
  | .lower => p.mustAlpha
  | .digit => p.mustDigit
  | .special => p.mustSpecial

def mustnt (p : Placement) : CharacterClass → Bool
  | .upper => p.mustntAlpha
  | .lower => p.mustntAlpha
  | .digit => p.mustntDigit
  | .special => p.mustntSpecial

/-- A class may stand here when it is one of those asked for, if any are, and not ruled out. -/
def allows (p : Placement) (k : CharacterClass) : Bool :=
  (!p.demands || p.must k) && !p.mustnt k

/-- The classes that may stand here, unless every character may. -/
def classes? (p : Placement) : Option (List CharacterClass) :=
  if p.demands || p.forbids then some (CharacterClass.all.filter p.allows) else none

def union (p q : Placement) : Placement where
  mustAlpha := p.mustAlpha || q.mustAlpha
  mustDigit := p.mustDigit || q.mustDigit
  mustSpecial := p.mustSpecial || q.mustSpecial
  mustntAlpha := p.mustntAlpha || q.mustntAlpha
  mustntDigit := p.mustntDigit || q.mustntDigit
  mustntSpecial := p.mustntSpecial || q.mustntSpecial

end Placement

structure PasswordPolicy where
  minLength : UInt32
  maxLength : UInt32
  digitRequired : Bool
  upperRequired : Bool
  lowerRequired : Bool
  specialRequired : Bool
  start : Placement
  finish : Placement
  forbiddenPrefixes : List String
  forbiddenSuffixes : List String
  deriving DecidableEq, Repr

/-- Why no password can be made. -/
inductive PolicyError where
  | nonPositiveMinLength
  | minGreaterThanMax (min max : UInt32)
  | conflictingFlags (first second : String)
  | unsatisfiable (reason : String)
  deriving DecidableEq, Repr

def PolicyError.message : PolicyError → String
  | .nonPositiveMinLength => "Minimum length must be greater than zero"
  | .minGreaterThanMax min max =>
    "Minimum length " ++ toString min.toNat ++ " is greater than maximum length " ++
      toString max.toNat
  | .conflictingFlags first second => "Conflicting constraints: " ++ first ++ " and " ++ second
  | .unsatisfiable reason => "Unsatisfiable policy: " ++ reason

/-- A fixed word for each kind of error. -/
def PolicyError.code : PolicyError → String
  | .nonPositiveMinLength => "non_positive_min_length"
  | .minGreaterThanMax _ _ => "min_greater_than_max"
  | .conflictingFlags _ _ => "conflicting_flags"
  | .unsatisfiable _ => "unsatisfiable"

namespace PasswordPolicy

/-- The policy that asks for nothing. -/
def free : PasswordPolicy :=
  ⟨0, 0, false, false, false, false, .free, .free, [], []⟩

/-- The maximal length when no policy sets one. -/
def defaultMaxLength : UInt32 := 1000

/-- The smallest length among those that are set. -/
def smallestSet (lengths : List UInt32) : UInt32 :=
  match lengths.filter fun n => n != 0 with
  | [] => defaultMaxLength
  | n :: ns => ns.foldl min n

/-- Each nonempty text once, where it comes first. -/
def distinct (texts : List String) : List String :=
  texts.foldl (fun seen s => if s.isEmpty || seen.contains s then seen else seen ++ [s]) []

/-- The policy of several policies together. -/
def merge (policies : List PasswordPolicy) : PasswordPolicy where
  minLength := (policies.map minLength).foldl max 0
  maxLength := smallestSet (policies.map maxLength)
  digitRequired := policies.any digitRequired
  upperRequired := policies.any upperRequired
  lowerRequired := policies.any lowerRequired
  specialRequired := policies.any specialRequired
  start := (policies.map start).foldl .union .free
  finish := (policies.map finish).foldl .union .free
  forbiddenPrefixes := distinct (policies.flatMap forbiddenPrefixes)
  forbiddenSuffixes := distinct (policies.flatMap forbiddenSuffixes)

/-- Pairs of demands that cannot both be met, in the order in which they are reported. -/
def conflicts (p : PasswordPolicy) : List (Bool × String × String) :=
  [(p.finish.mustAlpha && p.finish.mustntAlpha, "must_end_with_alpha", "mustnt_end_with_alpha"),
    (p.finish.mustAlpha && p.finish.mustDigit, "must_end_with_alpha", "must_end_with_digit"),
    (p.finish.mustDigit && p.finish.mustntDigit, "must_end_with_digit", "mustnt_end_with_digit"),
    (p.finish.mustSpecial && p.finish.mustntSpecial,
      "must_end_with_non_alpha", "mustnt_end_with_non_alpha"),
    (p.start.mustAlpha && p.start.mustntAlpha,
      "must_start_with_alpha", "mustnt_start_with_alpha"),
    (p.start.mustAlpha && p.start.mustDigit, "must_start_with_alpha", "must_start_with_digit"),
    (p.start.mustDigit && p.start.mustntDigit,
      "must_start_with_digit", "mustnt_start_with_digit"),
    (p.start.mustSpecial && p.start.mustntSpecial,
      "must_start_with_non_alpha", "mustnt_start_with_non_alpha")]

/-- Refuses a policy whose lengths or demands contradict each other. -/
def check (p : PasswordPolicy) : Except PolicyError Unit :=
  if p.minLength = 0 then .error .nonPositiveMinLength
  else if p.maxLength < p.minLength then .error (.minGreaterThanMax p.minLength p.maxLength)
  else match p.conflicts.find? fun c => c.1 with
    | some (_, first, second) => .error (.conflictingFlags first second)
    | none => .ok ()

/-- The classes a password must have a character of. -/
def requiredClasses (p : PasswordPolicy) : List CharacterClass :=
  [(p.digitRequired, CharacterClass.digit), (p.upperRequired, .upper), (p.lowerRequired, .lower),
    (p.specialRequired, .special)].filterMap fun r => if r.1 then some r.2 else none

/-- Whether a class may stand at an end. -/
def fits (k : Option CharacterClass) (p : Placement) : Bool :=
  match p.classes?, k with
  | none, _ => true
  | some allowed, some k => allowed.contains k
  | some _, none => false

/-- Whether a password starts in a forbidden way. -/
def startsBadly (p : PasswordPolicy) (cs : List Char) : Bool :=
  p.forbiddenPrefixes.any fun s => s.toList.isPrefixOf cs

/-- Whether a password ends in a forbidden way. -/
def endsBadly (p : PasswordPolicy) (cs : List Char) : Bool :=
  p.forbiddenSuffixes.any fun s => s.toList.isSuffixOf cs

/-- Whether the length of a password is within the bounds. -/
def admitsLength (p : PasswordPolicy) (length : UInt32) : Bool :=
  decide (p.minLength ≤ length) && (p.maxLength == 0 || decide (length ≤ p.maxLength))

/-- Whether a password satisfies the policy. Its characters are counted with thirty-two bits. The
first and the last character are those that belong to a class. -/
def complies (p : PasswordPolicy) (password : String) : Bool :=
  let cs := password.toList
  let classes := cs.filterMap CharacterClass.of?
  p.admitsLength (.ofNat cs.length) &&
    p.requiredClasses.all classes.contains &&
    fits classes.head? p.start && fits classes.getLast? p.finish &&
    !p.startsBadly cs && !p.endsBadly cs

instance : ToJson PasswordPolicy where
  toJson p := .obj (
    field "min_length" p.minLength ++ field "max_length" p.maxLength ++
    field "digit_required" p.digitRequired ++ field "uppercase_required" p.upperRequired ++
    field "lowercase_required" p.lowerRequired ++
    field "non_alphanumeric_required" p.specialRequired ++
    field "must_start_with_alpha" p.start.mustAlpha ++
    field "must_start_with_digit" p.start.mustDigit ++
    field "must_start_with_non_alpha" p.start.mustSpecial ++
    field "mustnt_start_with_alpha" p.start.mustntAlpha ++
    field "mustnt_start_with_digit" p.start.mustntDigit ++
    field "mustnt_start_with_non_alpha" p.start.mustntSpecial ++
    field "must_end_with_alpha" p.finish.mustAlpha ++
    field "must_end_with_digit" p.finish.mustDigit ++
    field "must_end_with_non_alpha" p.finish.mustSpecial ++
    field "mustnt_end_with_alpha" p.finish.mustntAlpha ++
    field "mustnt_end_with_digit" p.finish.mustntDigit ++
    field "mustnt_end_with_non_alpha" p.finish.mustntSpecial ++
    field "forbidden_prefixes" p.forbiddenPrefixes ++
    field "forbidden_suffixes" p.forbiddenSuffixes)

/-- The names of the fields in which a policy is written. -/
def fieldNames : List String :=
  ["min_length", "max_length", "digit_required", "uppercase_required", "lowercase_required",
    "non_alphanumeric_required", "must_start_with_alpha", "must_start_with_digit",
    "must_start_with_non_alpha", "mustnt_start_with_alpha", "mustnt_start_with_digit",
    "mustnt_start_with_non_alpha", "must_end_with_alpha", "must_end_with_digit",
    "must_end_with_non_alpha", "mustnt_end_with_alpha", "mustnt_end_with_digit",
    "mustnt_end_with_non_alpha", "forbidden_prefixes", "forbidden_suffixes"]

instance : FromJson PasswordPolicy where
  read? reading j := do
    let r ← Record.ofJson? reading fieldNames j
    return {
      minLength := ← r.withDefault "min_length" 0
      maxLength := ← r.withDefault "max_length" 0
      digitRequired := ← r.withDefault "digit_required" false
      upperRequired := ← r.withDefault "uppercase_required" false
      lowerRequired := ← r.withDefault "lowercase_required" false
      specialRequired := ← r.withDefault "non_alphanumeric_required" false
      start := {
        mustAlpha := ← r.withDefault "must_start_with_alpha" false
        mustDigit := ← r.withDefault "must_start_with_digit" false
        mustSpecial := ← r.withDefault "must_start_with_non_alpha" false
        mustntAlpha := ← r.withDefault "mustnt_start_with_alpha" false
        mustntDigit := ← r.withDefault "mustnt_start_with_digit" false
        mustntSpecial := ← r.withDefault "mustnt_start_with_non_alpha" false }
      finish := {
        mustAlpha := ← r.withDefault "must_end_with_alpha" false
        mustDigit := ← r.withDefault "must_end_with_digit" false
        mustSpecial := ← r.withDefault "must_end_with_non_alpha" false
        mustntAlpha := ← r.withDefault "mustnt_end_with_alpha" false
        mustntDigit := ← r.withDefault "mustnt_end_with_digit" false
        mustntSpecial := ← r.withDefault "mustnt_end_with_non_alpha" false }
      forbiddenPrefixes := ← r.withDefault "forbidden_prefixes" []
      forbiddenSuffixes := ← r.withDefault "forbidden_suffixes" [] }

end PasswordPolicy

end Provisioning
