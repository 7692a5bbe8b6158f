import Assay.Failure
import Assay.Text.Basic

/-!
# Integers in text

`readInt` reads an integer as people write it: blanks around it, an optional sign, decimal digits of
any script and single underscores between digits. The four separators of ASCII are no blanks here.
More than `Json.maxDigits` digits are refused.

* `digitsOf`: the values of the leading digits, and the text after them;
* `readInt`: the integer, or why there is none;
* `hexValue?`: hexadecimal digits.
-/

namespace Assay.Text

/-- The leading digits of a text with single underscores between them, and what follows. `after`
tells whether a digit comes right before. -/
def digitsOf (after : Bool) : List Char → List Nat × List Char
  | [] => ([], [])
  | c :: rest =>
    match decimalValue? c with
    | some d =>
      let (ds, rest) := digitsOf true rest
      (d :: ds, rest)
    | none =>
      if c == '_' && after then
        match rest with
        | d :: _ => if isDecimal d then digitsOf false rest else ([], c :: rest)
        | [] => ([], c :: rest)
      else ([], c :: rest)

/-- The value of some decimal digits. -/
def ofDigits (ds : List Nat) : Nat :=
  ds.foldl (fun n d => 10 * n + d) 0

/-- The value of a hexadecimal digit. -/
def hexValue? (c : Char) : Option Nat :=
  if c.isDigit then some (c.toNat - '0'.toNat)
  else if 'a' ≤ c ∧ c ≤ 'f' then some (c.toNat - 'a'.toNat + 10)
  else if 'A' ≤ c ∧ c ≤ 'F' then some (c.toNat - 'A'.toNat + 10)
  else none

/-- The sign of a numeral and what follows it. -/
def signOf : List Char → Bool × List Char
  | '-' :: rest => (true, rest)
  | '+' :: rest => (false, rest)
  | s => (false, s)

/-- Whether a text goes wrong inside its digits: an underscore that no digit follows. -/
def breaksOff (ds : List Nat) (rest : List Char) : Bool :=
  ds.isEmpty || rest.head? == some '_'

/-- A blank that may stand around a number. -/
def isNumberBlank (c : Char) : Bool :=
  isBlank c && !(28 ≤ c.toNat && c.toNat ≤ 31)

/-- A text without the blanks that may stand around a number. -/
def stripNumber (s : List Char) : List Char :=
  ((s.dropWhile isNumberBlank).reverse.dropWhile isNumberBlank).reverse

/-- Reads an integer. -/
def readInt (s : String) : Except NumberFault Int :=
  let (negative, body) := signOf (stripNumber s.toList)
  let (ds, rest) := digitsOf false body
  if breaksOff ds rest then .error (.spelling s 10)
  else if Json.maxDigits < ds.length then .error (.digits ds.length)
  else if !rest.isEmpty then .error (.spelling s 10)
  else .ok (if negative then -(ofDigits ds : Int) else ofDigits ds)

end Assay.Text
