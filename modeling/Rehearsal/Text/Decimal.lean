/-!
# Decimal numbers in text

`readDecimal` accepts nothing but digits. Core's `String.toNat?` also takes underscores, which no
format here allows.
-/

namespace Rehearsal

namespace Text

/-- The value of a decimal digit. -/
def digitValue (c : Char) : Nat := c.toNat - '0'.toNat

/-- The number written by one or more decimal digits. -/
def readDecimal (cs : List Char) : Option Nat :=
  if cs ≠ [] ∧ cs.all Char.isDigit then some (cs.foldl (fun n c => 10 * n + digitValue c) 0)
  else none

/-- Is the character a hexadecimal digit, in capital or small letters? -/
def isHexDigit (c : Char) : Bool :=
  c.isDigit || ('a' ≤ c && c ≤ 'f') || ('A' ≤ c && c ≤ 'F')

/-- The value of a hexadecimal digit. -/
def hexDigitValue (c : Char) : Nat :=
  if c.isDigit then c.toNat - '0'.toNat
  else if 'a' ≤ c then c.toNat - 'a'.toNat + 10
  else c.toNat - 'A'.toNat + 10

/-- The number written by one or more hexadecimal digits. -/
def readHex (cs : List Char) : Option Nat :=
  if cs ≠ [] ∧ cs.all isHexDigit then some (cs.foldl (fun n c => 16 * n + hexDigitValue c) 0)
  else none

end Text

end Rehearsal
