/-!
# Decimal numerals within a bound

A numeral is one or more ASCII digits with at most one plus sign before them. Its value must not
exceed the bound of the type it is read for.
-/

namespace Provisioning.Text.Numeral

/-- Why a text is not a numeral within its bound. -/
inductive Flaw where
  | empty
  | invalidDigit
  | tooLarge
  deriving DecidableEq, Repr

def Flaw.message : Flaw → String
  | .empty => "cannot parse integer from empty string"
  | .invalidDigit => "invalid digit found in string"
  | .tooLarge => "number too large to fit in target type"

/-- The digits of a text, without the plus sign that may stand before them. -/
def unsigned : List Char → List Char
  | '+' :: d :: ds => d :: ds
  | cs => cs

/-- Reads digits one by one; what comes first decides, a character that is no digit or a value
beyond the bound. -/
def readDigits (bound n : Nat) : List Char → Except Flaw Nat
  | [] => .ok n
  | c :: cs =>
    if !c.isDigit then .error .invalidDigit
    else if n * 10 + (c.toNat - 48) > bound then .error .tooLarge
    else readDigits bound (n * 10 + (c.toNat - 48)) cs

def read (bound : Nat) (s : String) : Except Flaw Nat :=
  if s.toList.isEmpty then .error .empty else readDigits bound 0 (unsigned s.toList)

end Provisioning.Text.Numeral
