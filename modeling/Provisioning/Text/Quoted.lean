import Provisioning.Text.EscapedRanges
import Provisioning.Text.Hex
import Provisioning.Text.Ranges

/-!
# Quoted text

A text stands between quotes, with a backslash before a quote or a backslash in it. Line feed,
carriage return, tab and NUL have a letter each; any other character that does not print by itself
is written by its code point in base sixteen, between braces. A list of quoted texts stands between
brackets.
-/

namespace Provisioning.Text.Quoted

/-- Whether a character prints by itself. -/
def isPlain (c : Char) : Bool :=
  if c.toNat < 0x7F then decide (0x20 ≤ c.toNat) else !inRanges escapedRanges c.toNat

/-- A character by its code point. -/
def byCode (c : Char) : List Char :=
  ['\\', 'u', '\x7b'] ++ Hex.shortest c.toNat ++ ['\x7d']

/-- A character as it is written between marks of the kind `quote`. -/
def character (quote c : Char) : List Char :=
  if c = quote ∨ c = '\\' then ['\\', c]
  else if c = '\n' then ['\\', 'n']
  else if c = '\r' then ['\\', 'r']
  else if c = '\t' then ['\\', 't']
  else if c = '\x00' then ['\\', '0']
  else if isPlain c then [c]
  else byCode c

/-- A text between double quotes. -/
def text (s : String) : String :=
  "\"" ++ String.ofList (s.toList.flatMap (character '"')) ++ "\""

/-- A single character between single quotes. -/
def single (c : Char) : String :=
  "'" ++ String.ofList (character '\'' c) ++ "'"

/-- Quoted texts between brackets. -/
def list (texts : List String) : String :=
  "[" ++ ", ".intercalate (texts.map text) ++ "]"

end Provisioning.Text.Quoted
