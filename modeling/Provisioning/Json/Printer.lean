import Provisioning.Json.Basic
import Provisioning.Number.Shortest
import Provisioning.Text.Hex

/-!
# Writing JSON

A value is written without white space. In strings the quote, the backslash and the control
characters are escaped, by a letter where there is one for them; all else stands for itself.

A double is written by its shortest decimal, of two equally near ones that with an even last digit.
Between a hundred thousandth and ten to the sixteenth the digits stand in their places, and there is
always a point. Any other double has one digit before the point and an exponent.
-/

namespace Provisioning.Json

/-- What stands behind a backslash for a character that has a short escape. -/
def shortEscape? : Char → Option Char
  | '"' => some '"'
  | '\\' => some '\\'
  | '\x08' => some 'b'
  | '\x0c' => some 'f'
  | '\n' => some 'n'
  | '\r' => some 'r'
  | '\t' => some 't'
  | _ => none

def escaped (c : Char) : List Char :=
  match shortEscape? c with
  | some letter => ['\\', letter]
  | none => if c.toNat < 0x20 then ['\\', 'u', '0', '0'] ++ Text.Hex.ofNat 2 c.toNat else [c]

def quoted (s : String) : String :=
  "\"" ++ String.ofList (s.toList.flatMap escaped) ++ "\""

/-- Digits with one of them before the point, and the exponent. -/
def scientific (d : Decimal) : String :=
  let ds := (toString d.digits).toList
  let behind := ds.drop 1
  String.ofList (ds.take 1 ++ if behind.isEmpty then [] else '.' :: behind) ++ "e" ++
    toString (d.exponent + (behind.length : Int))

/-- The text of a decimal that is not zero. -/
def decimalText (d : Decimal) : String :=
  let place := ((toString d.digits).length : Int) + d.exponent
  if -5 < place ∧ place ≤ 16 then
    if 0 ≤ d.exponent then d.layout ++ ".0" else d.layout
  else scientific d

/-- The text of a finite double. -/
def doubleText (d : Double) : String :=
  (if d.negative then "-" else "") ++
    if d.isZero then "0.0" else decimalText (Decimal.shortest .even d)

mutual

def text : Json → String
  | .null => "null"
  | .bool true => "true"
  | .bool false => "false"
  | .int n => toString n
  | .double d => if d.isFinite then doubleText d else "null"
  | .str s => quoted s
  | .arr items => "[" ++ ",".intercalate (itemTexts items) ++ "]"
  | .obj fields => "\x7b" ++ ",".intercalate (fieldTexts fields) ++ "\x7d"
  | .unreadable => "null"

def itemTexts : List Json → List String
  | [] => []
  | j :: rest => j.text :: itemTexts rest

def fieldTexts : List (String × Json) → List String
  | [] => []
  | (name, j) :: rest => (quoted name ++ ":" ++ j.text) :: fieldTexts rest

end

end Provisioning.Json
