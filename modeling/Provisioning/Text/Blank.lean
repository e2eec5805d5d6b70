import Provisioning.Text.Ranges

/-!
# Blank text

A text is blank when it holds nothing but white space, in the sense of the Unicode property
`White_Space`: twenty-five characters, among them the no-break space and the ideographic space, but
not the zero-width space. Trimming drops those characters at both ends.
-/

namespace Provisioning.Text

/-- The code points of the property `White_Space`. -/
def whiteSpaceRanges : List (Nat × Nat) :=
  [(0x09, 0x0D), (0x20, 0x20), (0x85, 0x85), (0xA0, 0xA0), (0x1680, 0x1680), (0x2000, 0x200A),
    (0x2028, 0x2029), (0x202F, 0x202F), (0x205F, 0x205F), (0x3000, 0x3000)]

/-- Whether a character is white space. -/
def isWhiteSpace (c : Char) : Bool :=
  inRanges whiteSpaceRanges c.toNat

/-- Whether a text holds nothing but white space; the empty text does. -/
def isBlank (s : String) : Bool :=
  s.toList.all isWhiteSpace

/-- The text without white space at its start. -/
def dropLeading (cs : List Char) : List Char :=
  cs.dropWhile isWhiteSpace

/-- The text without white space at either end. -/
def trim (s : String) : String :=
  String.ofList (dropLeading (dropLeading s.toList).reverse).reverse

/-- The text, unless it is blank. -/
def nonBlank? (s : String) : Option String :=
  if isBlank s then none else some s

end Provisioning.Text
