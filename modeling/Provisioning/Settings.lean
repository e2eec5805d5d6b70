import Provisioning.Text.Blank
import Provisioning.Text.Numeral

/-!
# Settings

The settings have defaults, and are given one by one or by the variables of an environment. A
reason of no length at all is refused when it is given directly.
-/

namespace Provisioning

open Text

structure Settings where
  /-- Whether the object is read again after the call. -/
  fetchAfter : Bool
  /-- The most characters of a short reason. -/
  maxReasonLength : Nat
  /-- How often the ends of a password are drawn anew. -/
  passwordRetries : UInt32
  deriving DecidableEq, Repr

/-- A setting with a value that it cannot have. -/
structure SettingsError where
  setting : String
  reason : String
  deriving DecidableEq, Repr

def SettingsError.message (e : SettingsError) : String :=
  "Configuration invalid for " ++ e.setting ++ ": " ++ e.reason

namespace Settings

def default : Settings := ⟨true, 1000, 64⟩

/-- Settings with the given values in place of the defaults. -/
def build (fetchAfter : Option Bool) (maxReasonLength : Option Nat)
    (passwordRetries : Option UInt32) : Except SettingsError Settings :=
  let length := maxReasonLength.getD default.maxReasonLength
  if length = 0 then .error ⟨"max_reason_length", "must be greater than zero"⟩
  else .ok ⟨fetchAfter.getD default.fetchAfter, length,
    passwordRetries.getD default.passwordRetries⟩

def fetchAfterVariable : String := "XAVYO_PROPAGATION_FETCH_AFTER_STATE"

def maxReasonLengthVariable : String := "XAVYO_PROPAGATION_MAX_REASON_LENGTH"

def passwordRetriesVariable : String := "XAVYO_PROPAGATION_PASSWORD_RETRIES"

def readBool (s : String) : Except String Bool :=
  if s = "true" then .ok true
  else if s = "false" then .ok false
  else .error "provided string was not `true` or `false`"

def readNat (bound : Nat) (s : String) : Except String Nat :=
  (Numeral.read bound s).mapError Numeral.Flaw.message

/-- Reads a variable, white space around its value apart, if it is set. -/
def readVariable {α : Type} (env : String → Option String) (name : String) (default : α)
    (read : String → Except String α) : Except SettingsError α :=
  match env name with
  | none => .ok default
  | some value => (read (trim value)).mapError fun reason => ⟨name, reason⟩

/-- Settings by an environment. -/
def ofEnvironment (env : String → Option String) : Except SettingsError Settings := do
  return {
    fetchAfter := ← readVariable env fetchAfterVariable default.fetchAfter readBool
    maxReasonLength := ←
      readVariable env maxReasonLengthVariable default.maxReasonLength (readNat (UInt64.size - 1))
    passwordRetries := ←
      readVariable env passwordRetriesVariable default.passwordRetries
        fun s => (readNat (UInt32.size - 1) s).map UInt32.ofNat }

end Settings

end Provisioning
