import Provisioning.Json.Numeral
import Provisioning.Text.Hex

/-!
# Reading JSON

A text holds one value with white space around it. Strings hold no bare control characters. Arrays
and objects that nest more than 127 deep are well formed but unreadable.
-/

namespace Provisioning.Json

namespace Reader

def isBlank (c : Char) : Bool :=
  c == ' ' || c == '\n' || c == '\t' || c == '\r'

def skipBlanks (cs : List Char) : List Char :=
  cs.dropWhile isBlank

/-- The sixteen bits that four digits write. -/
def unit? (a b c d : Char) : Option Nat :=
  Text.Hex.natOf? [a, b, c, d]

def escape? : Char → Option Nat
  | '"' => some 34
  | '\\' => some 92
  | '/' => some 47
  | 'b' => some 8
  | 'f' => some 12
  | 'n' => some 10
  | 'r' => some 13
  | 't' => some 9
  | _ => none

/-- The codes of a string up to its closing quote. A surrogate pair is still in two halves. -/
def codes? : List Char → Option (List Nat × List Char)
  | '"' :: rest => some ([], rest)
  | '\\' :: 'u' :: a :: b :: c :: d :: rest => do
    let unit ← unit? a b c d
    let (codes, rest) ← codes? rest
    return (unit :: codes, rest)
  | '\\' :: c :: rest => do
    let code ← escape? c
    let (codes, rest) ← codes? rest
    return (code :: codes, rest)
  | c :: rest =>
    if c.toNat < 0x20 then none
    else do
      let (codes, rest) ← codes? rest
      return (c.toNat :: codes, rest)
  | [] => none

def isHigh (code : Nat) : Bool :=
  decide (0xD800 ≤ code) && decide (code ≤ 0xDBFF)

def isLow (code : Nat) : Bool :=
  decide (0xDC00 ≤ code) && decide (code ≤ 0xDFFF)

/-- Joins the halves of surrogate pairs; a half that stands alone is no character. -/
def characters? : List Nat → Option (List Char)
  | [] => some []
  | [code] => if isHigh code || isLow code then none else some [Char.ofNat code]
  | a :: b :: rest =>
    if isHigh a && isLow b then do
      let cs ← characters? rest
      return Char.ofNat (0x10000 + (a - 0xD800) * 0x400 + (b - 0xDC00)) :: cs
    else if isHigh a || isLow a then none
    else do
      let cs ← characters? (b :: rest)
      return Char.ofNat a :: cs

/-- A string after its opening quote. -/
def string? (cs : List Char) : Option (Json × List Char) := do
  let (codes, rest) ← codes? cs
  match characters? codes with
  | some text => return (.str (String.ofList text), rest)
  | none => return (.unreadable, rest)

/-- A field's name up to and including the colon. -/
def name? (cs : List Char) : Option (Json × List Char) :=
  match skipBlanks cs with
  | '"' :: rest => do
    let (name, rest) ← string? rest
    match skipBlanks rest with
    | ':' :: rest => return (name, rest)
    | _ => none
  | _ => none

/-- A field whose name is readable. -/
def named? : Json × Json → Option (String × Json)
  | (.str name, value) => some (name, value)
  | _ => none

/-- The object with the given names and values, which takes readable names. -/
def object (fields : List (Json × Json)) : Json :=
  match fields.mapM named? with
  | some fields => .obj fields
  | none => .unreadable

/-- An array or an object that stands where `depth` of them may still nest. -/
def nested (depth : Nat) (value : Json) : Json :=
  if depth = 0 then .unreadable else value

mutual

/-- A value, in which `depth` arrays and objects may nest. -/
def value? (fuel depth : Nat) (cs : List Char) : Option (Json × List Char) :=
  match fuel with
  | 0 => none
  | fuel + 1 =>
    match skipBlanks cs with
    | 'n' :: 'u' :: 'l' :: 'l' :: rest => some (.null, rest)
    | 't' :: 'r' :: 'u' :: 'e' :: rest => some (.bool true, rest)
    | 'f' :: 'a' :: 'l' :: 's' :: 'e' :: rest => some (.bool false, rest)
    | '"' :: rest => string? rest
    | '[' :: rest =>
      match skipBlanks rest with
      | ']' :: rest => some (nested depth (.arr []), rest)
      | rest => do
        let (items, rest) ← items? fuel (depth - 1) rest
        return (nested depth (.arr items), rest)
    | '\x7b' :: rest =>
      match skipBlanks rest with
      | '\x7d' :: rest => some (nested depth (.obj []), rest)
      | rest => do
        let (fields, rest) ← fields? fuel (depth - 1) rest
        return (nested depth (object fields), rest)
    | rest => do
      let (n, rest) ← Numeral.read? rest
      return (n.toJson, rest)

/-- The items of an array up to its closing bracket. -/
def items? (fuel depth : Nat) (cs : List Char) : Option (List Json × List Char) :=
  match fuel with
  | 0 => none
  | fuel + 1 => do
    let (item, rest) ← value? fuel depth cs
    match skipBlanks rest with
    | ',' :: rest => do
      let (items, rest) ← items? fuel depth rest
      return (item :: items, rest)
    | ']' :: rest => return ([item], rest)
    | _ => none

/-- The fields of an object up to its closing brace. -/
def fields? (fuel depth : Nat) (cs : List Char) : Option (List (Json × Json) × List Char) :=
  match fuel with
  | 0 => none
  | fuel + 1 => do
    let (name, rest) ← name? cs
    let (value, rest) ← value? fuel depth rest
    match skipBlanks rest with
    | ',' :: rest => do
      let (fields, rest) ← fields? fuel depth rest
      return ((name, value) :: fields, rest)
    | '\x7d' :: rest => return ([(name, value)], rest)
    | _ => none

end

end Reader

/-- Reads a text as one value. Each call of a reader but the first takes a character, or follows
one that did. -/
def ofText? (s : String) : Option Json := do
  let (value, rest) ← Reader.value? (2 * s.length + 2) 127 s.toList
  if (Reader.skipBlanks rest).isEmpty then return value else none

end Provisioning.Json
