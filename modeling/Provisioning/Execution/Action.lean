import Provisioning.Worded

/-!
# Actions

A resource may have actions that are called before and after the change. An action that fails
beforehand stops the change only if it is fatal; what happens afterwards changes nothing.
-/

namespace Provisioning

inductive Criticality where
  | fatal
  | tolerated
  | ignored
  deriving DecidableEq, Repr

instance : Worded Criticality where
  all := [.fatal, .tolerated, .ignored]
  word
    | .fatal => "fatal"
    | .tolerated => "partial"
    | .ignored => "ignore"

structure Action where
  name : String
  criticality : Criticality
  deriving DecidableEq, Repr

inductive ActionError where
  | executionFailed (message : String)
  | rejected (reason : String)
  deriving DecidableEq, Repr

def ActionError.message : ActionError → String
  | .executionFailed m => "Action execution failed: " ++ m
  | .rejected reason => "Action rejected the propagation: " ++ reason

end Provisioning
