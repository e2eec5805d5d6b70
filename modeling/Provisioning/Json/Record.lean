import Provisioning.Json.Basic

/-!
# Values as JSON

A type says how its values are written and how they are read back; reading refuses what is no value
of the type.

A record is written as an object with a field for each part. It is read from an object, where
unknown fields are passed over and a known one may come only once, or from an array of its parts in
order. A part may be missing when it has a default, and from an object also when it is optional.

One of several words may also be read from an object whose only field is the word, with null for
its value. A value that says by a tag what it is, is taken in as a whole to find the tag. What is
read late, out of such a value, may have an empty object there instead of null.
-/

namespace Provisioning

class ToJson (α : Type) where
  toJson : α → Json

/-- When a value is read: straight away, or late, after a value around it was taken in. -/
inductive Reading where
  | straight
  | late
  deriving DecidableEq, Repr

class FromJson (α : Type) where
  read? : Reading → Json → Option α

export ToJson (toJson)
export FromJson (read?)

/-- Reads a value straight away. -/
def fromJson? {α : Type} [FromJson α] (j : Json) : Option α :=
  read? .straight j

namespace Json

instance : ToJson Bool := ⟨.bool⟩
instance : ToJson String := ⟨.str⟩
instance : ToJson Nat := ⟨fun n => .int n⟩
instance : ToJson UInt8 := ⟨fun n => .int n.toNat⟩
instance : ToJson UInt32 := ⟨fun n => .int n.toNat⟩
instance : ToJson Int64 := ⟨fun n => .int n.toInt⟩

/-- A double that is not finite has no number and is written as null. -/
instance : ToJson Double := ⟨fun d => if d.isFinite then .double d else .null⟩

instance {α : Type} [ToJson α] : ToJson (List α) := ⟨fun xs => .arr (xs.map toJson)⟩

instance {α : Type} [ToJson α] : ToJson (Option α) where
  toJson
    | none => .null
    | some x => toJson x

def bool? : Json → Option Bool
  | .bool b => some b
  | _ => none

def str? : Json → Option String
  | .str s => some s
  | _ => none

/-- An integer within bounds. -/
def intWithin? (low high : Int) : Json → Option Int
  | .int n => if low ≤ n ∧ n ≤ high then some n else none
  | _ => none

/-- A number, also one written as an integer. -/
def double? : Json → Option Double
  | .double d => some d
  | .int n => some (.ofInt n)
  | _ => none

def items? : Json → Option (List Json)
  | .arr items => some items
  | _ => none

def byte? (j : Json) : Option UInt8 :=
  (intWithin? 0 (UInt8.size - 1) j).map fun n => .ofNat n.toNat

instance : FromJson Bool := ⟨fun _ => bool?⟩
instance : FromJson String := ⟨fun _ => str?⟩
instance : FromJson UInt8 := ⟨fun _ => byte?⟩
instance : FromJson UInt32 :=
  ⟨fun _ j => (intWithin? 0 (UInt32.size - 1) j).map fun n => .ofNat n.toNat⟩
instance : FromJson Int64 :=
  ⟨fun _ j => (intWithin? (-Nat.pow 2 63) (Nat.pow 2 63 - 1) j).map .ofInt⟩
instance : FromJson Double := ⟨fun _ => double?⟩

/-- Reads every item of a list. -/
def eachOf? {α : Type} (item? : Json → Option α) : List Json → Option (List α)
  | [] => some []
  | j :: rest => do return (← item? j) :: (← eachOf? item? rest)

instance {α : Type} [FromJson α] : FromJson (List α) where
  read? reading j := do eachOf? (read? reading) (← j.items?)

instance {α : Type} [FromJson α] : FromJson (Option α) where
  read? reading
    | .null => some none
    | j => (read? reading j).map some

/-- The field of an object with a name. -/
def field? (name : String) : Json → Option Json
  | .obj fields => fields.lookup name
  | _ => none

end Json

/-- A field that is always written. -/
def field {α : Type} [ToJson α] (name : String) (x : α) : List (String × Json) :=
  [(name, toJson x)]

/-- A field that is written only when it has a value. -/
def fieldIfAny {α : Type} [ToJson α] (name : String) : Option α → List (String × Json)
  | some x => [(name, toJson x)]
  | none => []

/-- Reads one of several words. -/
def word? {α : Type} (ofWord? : String → Option α) (reading : Reading) : Json → Option α
  | .str s => ofWord? s
  | .obj [(s, .null)] => ofWord? s
  | .obj [(s, .obj [])] => if reading = .late then ofWord? s else none
  | _ => none

/-- The parts of a record by their names. -/
structure Record where
  reading : Reading
  parts : List (String × Json)
  /-- Whether the parts were named, so that an optional one may be missing. -/
  named : Bool

namespace Record

/-- Whether a name is there more than once. -/
def repeats (fields : List (String × Json)) (name : String) : Bool :=
  decide (1 < (fields.filter fun f => f.1 == name).length)

/-- The parts of a value read as a record with the given names. -/
def ofJson? (reading : Reading) (names : List String) : Json → Option Record
  | .obj fields => if names.any (repeats fields) then none else some ⟨reading, fields, true⟩
  | .arr items =>
    if items.length ≤ names.length then some ⟨reading, names.zip items, false⟩ else none
  | _ => none

def part? (r : Record) (name : String) : Option Json :=
  r.parts.lookup name

variable {α : Type} [FromJson α]

/-- A part that must be there. -/
def required (r : Record) (name : String) : Option α := do
  read? r.reading (← r.part? name)

/-- A part that may be null, and may be missing where parts are named. -/
def optional (r : Record) (name : String) : Option (Option α) :=
  match r.part? name with
  | some j => read? r.reading j
  | none => if r.named then some none else none

/-- A part with a default for when it is missing. -/
def withDefault (r : Record) (name : String) (default : α) : Option α :=
  match r.part? name with
  | some j => read? r.reading j
  | none => some default

/-- The part that says by a word of which kind the record is. In an array only the word itself may
stand there, or, if it is read late, the place of the word among all of them. -/
def kind? (r : Record) (name : String) (words : List String) : Option String := do
  let j ← r.part? name
  if r.named then word? some r.reading j
  else match j, r.reading with
    | .str s, _ => some s
    | .int n, .late => if 0 ≤ n then words[n.toNat]? else none
    | _, _ => none

end Record

/-- A value that says by a tag which of several records it is. -/
structure Tagged where
  tag : String
  content : Json

namespace Tagged

/-- Takes the tag out of a value. An object names it; an array has it in front. -/
def split? (name : String) : Json → Option Tagged
  | .obj fields =>
    if Record.repeats fields name then none
    else do
      let tag ← (← fields.lookup name).str?
      return ⟨tag, .obj (fields.filter fun f => f.1 != name)⟩
  | .arr (.str tag :: items) => some ⟨tag, .arr items⟩
  | _ => none

/-- Takes in a whole value, every part of which has to be readable, and finds its tag. -/
def ofJson? (name : String) (j : Json) : Option Tagged :=
  if j.isReadable then split? name j else none

/-- Reads the content, which was taken in before. -/
def read? {α : Type} [FromJson α] (t : Tagged) : Option α :=
  FromJson.read? .late t.content

end Tagged

end Provisioning
