import Assay.Text.Ranges

/-!
# Character classes

The classes of characters that the rest of the library asks about. ASCII is decided by comparison,
everything above it by the tables of `Assay.Text.Ranges`.

* `isBlank`: what is trimmed from the ends of a text and what separates words;
* `isWord`: what an identifier may hold;
* `decimalValue?`: the value of a decimal digit of any script;
* `isNumeral`: a decimal digit, or a character that merely stands for one;
* `isPrintable`: what a quoted text shows without an escape;
* `foldLetter`: the ASCII letter that a character equals up to case.
-/

namespace Assay.Text

/-- Membership in a table of closed intervals. -/
def inRanges (table : List (Nat × Nat)) (n : Nat) : Bool :=
  table.any fun r => r.1 ≤ n && n ≤ r.2

/-- Blanks: tab to carriage return, the four separators below the space, the space, the next-line
mark and the space separators. The zero-width marks are no blanks. -/
def isBlank (c : Char) : Bool :=
  let n := c.toNat
  (9 ≤ n && n ≤ 13) || (28 ≤ n && n ≤ 32) || n == 0x85 || n == 0xA0 || n == 0x1680 ||
    (0x2000 ≤ n && n ≤ 0x200A) || n == 0x2028 || n == 0x2029 || n == 0x202F || n == 0x205F ||
    n == 0x3000

/-- Letters, numerals and the underscore. -/
def isWord (c : Char) : Bool :=
  if c.toNat < 128 then c.isAlphanum || c == '_' else inRanges wordRanges c.toNat

/-- The value of a decimal digit; every script writes its ten digits in one run. -/
def decimalValue? (c : Char) : Option Nat :=
  if c.toNat < 128 then
    if c.isDigit then some (c.toNat - 48) else none
  else
    (decimalRanges.find? fun r => r.1 ≤ c.toNat && c.toNat ≤ r.2).map fun r => (c.toNat - r.1) % 10

/-- A decimal digit of some script. -/
def isDecimal (c : Char) : Bool :=
  (decimalValue? c).isSome

/-- A digit in the wide sense: superscripts and circled digits count too. -/
def isNumeral (c : Char) : Bool :=
  isDecimal c || inRanges numeralRanges c.toNat

/-- A character that a quoted text shows as it is. -/
def isPrintable (c : Char) : Bool :=
  if c.toNat < 128 then 32 ≤ c.toNat && c.toNat < 127 else inRanges printableRanges c.toNat

/-- Sends every character that equals an ASCII letter up to case to that letter in lower case, and
every other character to itself. Beside the capitals these are the Kelvin sign, the long s, and
the dotted and the dotless i. -/
def foldLetter (c : Char) : Char :=
  if c.toNat == 0x212A then 'k'
  else if c.toNat == 0x17F then 's'
  else if c.toNat == 0x130 || c.toNat == 0x131 then 'i'
  else c.toLower

end Assay.Text
