import Provisioning.Worded

/-!
# What is asked of a target system

An operation creates, updates or deletes an object. In one phase its result is known when the call
returns; in two phases it is reported later.
-/

namespace Provisioning

inductive Operation where
  | create
  | update
  | delete
  deriving DecidableEq, Repr

instance : Worded Operation where
  all := [.create, .update, .delete]
  word
    | .create => "create"
    | .update => "update"
    | .delete => "delete"

inductive Mode where
  | onePhase
  | twoPhases
  deriving DecidableEq, Repr

instance : Worded Mode where
  all := [.onePhase, .twoPhases]
  word
    | .onePhase => "one_phase"
    | .twoPhases => "two_phases"

/-- A text that names no operation or mode. -/
inductive Unknown where
  | operation (text : String)
  | mode (text : String)
  deriving DecidableEq, Repr

def Unknown.message : Unknown → String
  | .operation s =>
    "invalid operation type '" ++ s ++ "', expected one of: create, update, delete"
  | .mode s => "Unknown propagation mode: " ++ s

/-- Lower-case letters for those of the Latin alphabet. Beside them only the Kelvin sign has one of
these letters for its lower case, and no word read here has a `k`. -/
def inLowerCase (s : String) : String :=
  String.ofList (s.toList.map Char.toLower)

/-- Reads the name of an operation in letters of any case. -/
def Operation.ofText (s : String) : Except Unknown Operation :=
  match ofWord? (inLowerCase s) with
  | some operation => .ok operation
  | none => .error (.operation s)

/-- Reads the name of a mode in letters of any case. -/
def Mode.ofText (s : String) : Except Unknown Mode :=
  match ofWord? (inLowerCase s) with
  | some mode => .ok mode
  | none => .error (.mode s)

end Provisioning
