import Provisioning.Text.Ranges
import Provisioning.Text.WordRanges

/-!
# Word characters

The characters a name may consist of: letters, marks, digits, connector punctuation and joiners of
any script.
-/

namespace Provisioning.Text

def isAsciiWord (code : Nat) : Bool :=
  (decide (48 ≤ code) && decide (code ≤ 57)) || (decide (65 ≤ code) && decide (code ≤ 90)) ||
    code == 95 || (decide (97 ≤ code) && decide (code ≤ 122))

/-- Whether a character is a word character. -/
def isWordChar (c : Char) : Bool :=
  if c.toNat < 0x80 then isAsciiWord c.toNat else inRanges wordRanges c.toNat

end Provisioning.Text
