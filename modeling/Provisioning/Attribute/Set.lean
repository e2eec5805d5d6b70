import Provisioning.Attribute.Value
import Provisioning.Keyed

/-!
# Sets of attributes

The attributes of an object by their names, each name once, in the order in which they came. What
one set wants of another is its difference: the attributes that are missing there or hold other
values.
-/

namespace Provisioning

structure AttributeSet where
  entries : List (String × AttributeValue)
  nodup : (Keyed.keys entries).Nodup

namespace AttributeSet

def empty : AttributeSet := ⟨[], List.nodup_nil⟩

/-- Sets the value under a name, whatever was there. -/
def set (s : AttributeSet) (name : String) (value : AttributeValue) : AttributeSet :=
  ⟨Keyed.put name value s.entries, Keyed.nodup_keys_put s.nodup⟩

/-- Later entries with the same name win. -/
def ofList (entries : List (String × AttributeValue)) : AttributeSet :=
  entries.foldl (fun s entry => s.set entry.1 entry.2) empty

def get? (s : AttributeSet) (name : String) : Option AttributeValue :=
  s.entries.lookup name

def has (s : AttributeSet) (name : String) : Bool :=
  (s.get? name).isSome

def names (s : AttributeSet) : List String :=
  Keyed.keys s.entries

def size (s : AttributeSet) : Nat :=
  s.entries.length

def isEmpty (s : AttributeSet) : Bool :=
  s.entries.isEmpty

/-- The text under a name, if a single text is there. -/
def getString? (s : AttributeSet) (name : String) : Option String := do
  (← s.get? name).asString?

/-- The texts under a name. -/
def getStrings? (s : AttributeSet) (name : String) : Option (List String) :=
  (s.get? name).map AttributeValue.asStrings

/-- Adds a value to those under a name. -/
def merge (s : AttributeSet) (name : String) (value : AttributeValue) : AttributeSet :=
  match s.get? name with
  | some there => s.set name (there.union value)
  | none => s.set name value

/-- The attributes that satisfy a condition. -/
def filter (s : AttributeSet) (p : String × AttributeValue → Bool) : AttributeSet :=
  ⟨s.entries.filter p, List.Nodup.sublist (List.filter_sublist.map _) s.nodup⟩

/-- The set without the attribute of a name. -/
def erase (s : AttributeSet) (name : String) : AttributeSet :=
  s.filter fun entry => entry.1 != name

/-- The attributes whose names another set has too. -/
def restrictedTo (s other : AttributeSet) : AttributeSet :=
  s.filter fun entry => other.has entry.1

/-- The attributes that another set lacks or has with other values. -/
def difference (s other : AttributeSet) : AttributeSet :=
  s.filter fun entry =>
    match other.get? entry.1 with
    | some there => !there.equivalent entry.2
    | none => true

/-- Equality of sets, whatever the order of their names. -/
def same (s other : AttributeSet) : Bool :=
  s.size == other.size && s.entries.all fun entry =>
    match other.get? entry.1 with
    | some there => entry.2.same there
    | none => false

instance : ToJson AttributeSet := ⟨fun s => .obj (s.entries.map fun e => (e.1, e.2.toJson))⟩

/-- Reads the values of an object's fields. -/
def entriesOfJson? : List (String × Json) → Option (List (String × AttributeValue))
  | [] => some []
  | (name, j) :: rest => do return (name, ← AttributeValue.ofJson? j) :: (← entriesOfJson? rest)

def ofJson? : Json → Option AttributeSet
  | .obj fields => (entriesOfJson? fields).map ofList
  | _ => none

instance : FromJson AttributeSet := ⟨fun _ => ofJson?⟩

end AttributeSet

end Provisioning
