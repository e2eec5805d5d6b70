import Provisioning.Attribute.Value
import Provisioning.Calendar.Pattern
import Provisioning.Calendar.Stamp
import Provisioning.Worded

/-!
# Typed values

The values that subjects are stored with have a type. Towards a target system dates and the choices
of an enumeration become text; a date is shown by a pattern if one is given, by its stamp if not.
-/

namespace Provisioning

open Calendar

inductive SchemaType where
  | boolean
  | date
  | double
  | long
  | string
  | enum
  | binary
  deriving DecidableEq, Repr

instance : Worded SchemaType where
  all := [.boolean, .date, .double, .long, .string, .enum, .binary]
  word
    | .boolean => "boolean"
    | .date => "date"
    | .double => "double"
    | .long => "long"
    | .string => "string"
    | .enum => "enum"
    | .binary => "binary"

inductive Datum where
  | boolean (value : Bool)
  | date (instant : Instant)
  | double (value : Double)
  | long (value : Int64)
  | string (text : String)
  | enum (choice : String)
  | binary (bytes : List UInt8)
  deriving DecidableEq, Repr

instance : ToJson Instant := ⟨fun t => .str t.stamp⟩

instance : FromJson Instant := ⟨fun _ j => do Instant.ofText? (← j.str?)⟩

namespace Datum

def type : Datum → SchemaType
  | .boolean _ => .boolean
  | .date _ => .date
  | .double _ => .double
  | .long _ => .long
  | .string _ => .string
  | .enum _ => .enum
  | .binary _ => .binary

/-- A date by a pattern, or by its stamp. -/
def dateText (t : Instant) : Option String → String
  | some pattern => t.shown pattern
  | none => t.text

/-- The value as text; the pattern is for dates. -/
def text (d : Datum) (pattern : Option String) : String :=
  match d with
  | .boolean b => if b then "true" else "false"
  | .date t => dateText t pattern
  | .double v => v.text
  | .long n => toString n.toInt
  | .string s => s
  | .enum s => s
  | .binary bytes => Text.Hex.encode bytes

/-- The value as a target system keeps it. -/
def toAttribute (d : Datum) (pattern : Option String) : AttributeValue :=
  match d with
  | .boolean b => .boolean b
  | .double v => .float v
  | .long n => .integer n
  | .binary bytes => .binary bytes
  | .date _ => .string (d.text pattern)
  | .string _ => .string (d.text pattern)
  | .enum _ => .string (d.text pattern)

/-- Whether the value can be shown by a pattern: only a date needs it to be valid. -/
def isPrintable (d : Datum) (pattern : Option String) : Bool :=
  match d, pattern with
  | .date _, some p => Pattern.isValid p
  | _, _ => true

def contentToJson : Datum → Json
  | .boolean b => toJson b
  | .date t => toJson t
  | .double v => toJson v
  | .long n => toJson n
  | .string s => toJson s
  | .enum s => toJson s
  | .binary bytes => toJson bytes

def ofContent? (j : Json) : SchemaType → Option Datum
  | .boolean => (fromJson? j).map .boolean
  | .date => (fromJson? j).map .date
  | .double => (fromJson? j).map .double
  | .long => (fromJson? j).map .long
  | .string => (fromJson? j).map .string
  | .enum => (fromJson? j).map .enum
  | .binary => (fromJson? j).map .binary

instance : ToJson Datum where
  toJson d := .obj (field "type" d.type ++ [("value", d.contentToJson)])

instance : FromJson Datum where
  read? reading j := do
    let r ← Record.ofJson? reading ["type", "value"] j
    let type ← ofWord? (← r.kind? "type" ((Worded.all : List SchemaType).map word))
    ofContent? (← r.part? "value") type

end Datum

end Provisioning
