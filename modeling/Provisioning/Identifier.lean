import Provisioning.Json.Record
import Provisioning.Text.Hex

/-!
# Identifiers

Subjects, tasks and executions are identified by numbers of 128 bits. An identifier is written as
thirty-two digits to the base sixteen, in groups of eight, four, four, four and twelve. It is read
with or without its hyphens, with them also between braces or behind `urn:uuid:` in any case.
-/

namespace Provisioning

open Text

structure Identifier where
  bits : BitVec 128
  deriving DecidableEq, Repr

namespace Identifier

/-- The numbers of digits between the hyphens. -/
def groups : List Nat := [8, 4, 4, 4, 12]

/-- Cuts a list into pieces of the given lengths. -/
def cut : List Nat → List Char → List (List Char)
  | [], _ => []
  | n :: ns, cs => cs.take n :: cut ns (cs.drop n)

def digits (id : Identifier) : List Char :=
  Hex.ofNat 32 id.bits.toNat

def text (id : Identifier) : String :=
  "-".intercalate ((cut groups id.digits).map String.ofList)

def ofDigits? (cs : List Char) : Option Identifier :=
  if cs.length = 32 then (Hex.natOf? cs).map fun n => ⟨BitVec.ofNat 128 n⟩ else none

/-- Thirty-two digits in groups with a hyphen between any two of them. -/
def ofHyphenated? (cs : List Char) : Option Identifier :=
  match cs.splitOn '-' with
  | [a, b, c, d, e] =>
    if [a, b, c, d, e].map List.length = groups then ofDigits? (a ++ b ++ c ++ d ++ e) else none
  | _ => none

/-- The prefix that an identifier with hyphens may have. -/
def urn : List Char :=
  "urn:uuid:".toList

/-- What comes after the prefix. -/
def afterUrn? (cs : List Char) : Option (List Char) :=
  if (cs.take urn.length).map Char.toLower = urn then some (cs.drop urn.length) else none

/-- What stands between braces. -/
def braced? (cs : List Char) : Option (List Char) :=
  match cs with
  | '\x7b' :: rest =>
    match rest.getLast? with
    | some '\x7d' => some rest.dropLast
    | _ => none
  | _ => none

def ofText? (s : String) : Option Identifier :=
  let cs := s.toList
  match ofDigits? cs with
  | some id => some id
  | none =>
    match braced? cs with
    | some inner => ofHyphenated? inner
    | none => ofHyphenated? ((afterUrn? cs).getD cs)

instance : ToJson Identifier := ⟨fun id => .str id.text⟩

instance : FromJson Identifier := ⟨fun _ j => do ofText? (← j.str?)⟩

end Identifier

/-- Names a user, a role or a membership. -/
abbrev SubjectKey := Identifier

/-- Names a propagation task. -/
abbrev TaskId := Identifier

/-- Names an execution that a store has taken in. -/
abbrev ExecutionId := Identifier

end Provisioning
