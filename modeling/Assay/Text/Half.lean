/-!
# Halves of pairs

In units of two bytes, a character beyond the basic ones is a pair of units. Escapes can name half
of a pair, which is no character. A text holds such a half as a character of the last area for
private use, where no text has others.

* `halfChar`, `half?`: the character that stands for a half, and the half that a character stands
  for;
* `charOf`: the character of a code, or what stands for it.
-/

namespace Assay.Text

/-- The code of half of a pair. -/
def isHalfCode (n : Nat) : Bool :=
  0xD800 ≤ n && n < 0xE000

/-- How far what stands for a half lies behind it. -/
def halfOffset : Nat := 0x100000

/-- Stands for a half by its code. -/
def halfChar (n : Nat) : Char :=
  Char.ofNat (halfOffset + n)

/-- The code of the half that a character stands for. -/
def half? (c : Char) : Option Nat :=
  let n := c.toNat - halfOffset
  if halfOffset ≤ c.toNat && isHalfCode n then some n else none

/-- The character of a code, or what stands for a half. -/
def charOf (n : Nat) : Char :=
  if isHalfCode n then halfChar n else Char.ofNat n

/-- The code of a character, or of the half that it stands for. -/
def codeOf (c : Char) : Nat :=
  (half? c).getD c.toNat

end Assay.Text
