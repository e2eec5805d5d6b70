import Provisioning.Worded

/-!
# Stored passwords

A password is stored with the algorithm that it went through. Only encryption can be undone; all
other algorithms are one-way.
-/

namespace Provisioning

inductive CipherAlgorithm where
  | sha1
  | sha256
  | ssha256
  | bcrypt
  | aes
  deriving DecidableEq, Repr

instance : Worded CipherAlgorithm where
  all := [.sha1, .sha256, .ssha256, .bcrypt, .aes]
  word
    | .sha1 => "sha1"
    | .sha256 => "sha256"
    | .ssha256 => "ssha256"
    | .bcrypt => "bcrypt"
    | .aes => "aes"

namespace CipherAlgorithm

def isReversible : CipherAlgorithm → Bool
  | .aes => true
  | _ => false

/-- The name that diagnostics show. -/
def title : CipherAlgorithm → String
  | .sha1 => "Sha1"
  | .sha256 => "Sha256"
  | .ssha256 => "Ssha256"
  | .bcrypt => "Bcrypt"
  | .aes => "Aes"

end CipherAlgorithm

structure StoredPassword where
  algorithm : CipherAlgorithm
  value : String
  deriving DecidableEq

namespace StoredPassword

/-- What diagnostics show of a stored password: never its value. -/
def redacted (p : StoredPassword) : String :=
  "StoredPassword \x7b algorithm: " ++ p.algorithm.title ++ ", value: \"***\" \x7d"

instance : ToJson StoredPassword where
  toJson p := .obj (field "algorithm" p.algorithm ++ field "value" p.value)

instance : FromJson StoredPassword where
  read? reading j := do
    let r ← Record.ofJson? reading ["algorithm", "value"] j
    return { algorithm := ← r.required "algorithm", value := ← r.required "value" }

end StoredPassword

end Provisioning
