/-!
# Padded text

A text is brought to a width by repeating one character before it; longer texts stay as they are.
-/

namespace Provisioning.Text

/-- The text with `fill` before it up to `width` characters. -/
def padded (fill : Char) (width : Nat) (s : String) : String :=
  String.ofList (List.replicate (width - s.length) fill) ++ s

/-- A number with zeros before it up to `width` digits. -/
def zeroPadded (width n : Nat) : String :=
  padded '0' width (toString n)

end Provisioning.Text
