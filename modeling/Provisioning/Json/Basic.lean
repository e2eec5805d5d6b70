import Provisioning.Number.Double

/-!
# JSON values

Numbers written without a point or an exponent are integers, all others doubles. An object is the
list of its fields as they are written, so that a name may come twice.

Some text is well formed and yet stands for no value: a number too large for a double, a string with
half of a surrogate pair, an object with such a name, or what nests too deep. It is read as
`unreadable`, which may stand where nobody looks.
-/

namespace Provisioning

inductive Json where
  | null
  | bool (value : Bool)
  | int (value : Int)
  | double (value : Double)
  | str (value : String)
  | arr (items : List Json)
  | obj (fields : List (String × Json))
  | unreadable
  deriving Inhabited

namespace Json

mutual

/-- Whether the value holds no unreadable part. -/
def isReadable : Json → Bool
  | .unreadable => false
  | .arr items => allReadable items
  | .obj fields => fieldsReadable fields
  | _ => true

def allReadable : List Json → Bool
  | [] => true
  | j :: rest => j.isReadable && allReadable rest

def fieldsReadable : List (String × Json) → Bool
  | [] => true
  | (_, j) :: rest => j.isReadable && fieldsReadable rest

end

end Json

end Provisioning
