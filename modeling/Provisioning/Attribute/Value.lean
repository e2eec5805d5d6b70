import Provisioning.Json.Record
import Provisioning.Number.Shortest
import Provisioning.Text.Hex

/-!
# Attribute values

What a target system keeps under one attribute: nothing, a single value, or an array of values. As
a collection a value is its flattened list, in which null counts for nothing and arrays, nested ones
too, for their items. Two values are equivalent when their lists hold the same values equally often,
and the union of two values holds every value of theirs once.

In JSON a value is written bare, so that reading has to choose: an array of numbers below 256, the
empty array with them, is binary data, and an integer beyond sixty-four bits a double.
-/

namespace Provisioning

inductive AttributeValue where
  | null
  | string (text : String)
  | integer (value : Int64)
  | boolean (value : Bool)
  | float (value : Double)
  | binary (bytes : List UInt8)
  | array (items : List AttributeValue)

namespace AttributeValue

mutual

/-- Equality of values: doubles are compared as numbers, so that NaN differs from itself. -/
def same : AttributeValue → AttributeValue → Bool
  | .null, .null => true
  | .string a, .string b => a == b
  | .integer a, .integer b => a == b
  | .boolean a, .boolean b => a == b
  | .float a, .float b => a.same b
  | .binary a, .binary b => a == b
  | .array a, .array b => sameItems a b
  | _, _ => false

def sameItems : List AttributeValue → List AttributeValue → Bool
  | [], [] => true
  | a :: as, b :: bs => a.same b && sameItems as bs
  | _, _ => false

end

mutual

/-- The single values of a value. -/
def values : AttributeValue → List AttributeValue
  | .null => []
  | .array items => valuesOf items
  | .string s => [.string s]
  | .integer n => [.integer n]
  | .boolean b => [.boolean b]
  | .float d => [.float d]
  | .binary bytes => [.binary bytes]

/-- The single values of several values. -/
def valuesOf : List AttributeValue → List AttributeValue
  | [] => []
  | v :: vs => v.values ++ valuesOf vs

end

def isNull : AttributeValue → Bool
  | .null => true
  | _ => false

def isArray : AttributeValue → Bool
  | .array _ => true
  | _ => false

/-- Whether a value holds no single value. -/
def isEmpty (v : AttributeValue) : Bool :=
  v.values.isEmpty

/-- The text of a single text. -/
def asString? : AttributeValue → Option String
  | .string s => some s
  | _ => none

/-- The texts among a value or the items of an array. -/
def asStrings : AttributeValue → List String
  | .string s => [s]
  | .array items => items.filterMap asString?
  | _ => []

/-- How often a value occurs in a list. -/
def occurrences (v : AttributeValue) (vs : List AttributeValue) : Nat :=
  (vs.filter fun x => x.same v).length

/-- Whether two values hold the same single values, whatever their order. -/
def equivalent (a b : AttributeValue) : Bool :=
  a.values.length == b.values.length &&
    a.values.all fun v => v.occurrences a.values == v.occurrences b.values

/-- Adds a value to a list that does not hold it yet. -/
def addNew (vs : List AttributeValue) (v : AttributeValue) : List AttributeValue :=
  if vs.any fun x => x.same v then vs else vs ++ [v]

/-- The single values of both, each once, in the order in which they come first. -/
def union (a b : AttributeValue) : AttributeValue :=
  .array ((a.values ++ b.values).foldl addNew [])

/-- An array of texts. -/
def strings (texts : List String) : AttributeValue :=
  .array (texts.map .string)

/-- The text that a value gives to an identifier: that of the first item of an array. -/
def text? : AttributeValue → Option String
  | .null => none
  | .string s => some s
  | .integer n => some (toString n.toInt)
  | .boolean b => some (if b then "true" else "false")
  | .float d => some d.text
  | .binary bytes => some (Text.Hex.encode bytes)
  | .array [] => none
  | .array (v :: _) => v.text?

mutual

def toJson : AttributeValue → Json
  | .null => .null
  | .string s => .str s
  | .integer n => ToJson.toJson n
  | .boolean b => .bool b
  | .float d => ToJson.toJson d
  | .binary bytes => ToJson.toJson bytes
  | .array items => .arr (itemsToJson items)

def itemsToJson : List AttributeValue → List Json
  | [] => []
  | v :: vs => v.toJson :: itemsToJson vs

end

mutual

/-- Reads a value. The first kind of value that fits is taken. -/
def ofJson? : Json → Option AttributeValue
  | .null => some .null
  | .bool b => some (.boolean b)
  | .int n =>
    some (if -Nat.pow 2 63 ≤ n ∧ n < Nat.pow 2 63 then .integer (.ofInt n) else .float (.ofInt n))
  | .double d => some (.float d)
  | .str s => some (.string s)
  | .arr items =>
    match Json.eachOf? Json.byte? items with
    | some bytes => some (.binary bytes)
    | none => (itemsOfJson? items).map .array
  | .obj _ => none
  | .unreadable => none

def itemsOfJson? : List Json → Option (List AttributeValue)
  | [] => some []
  | j :: rest => do return (← j |> ofJson?) :: (← itemsOfJson? rest)

end

instance : ToJson AttributeValue := ⟨toJson⟩

instance : FromJson AttributeValue := ⟨fun _ => ofJson?⟩

end AttributeValue

end Provisioning
