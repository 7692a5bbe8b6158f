import Assay.Text.Encoding.Basic

/-!
# Encodings with two bytes a character

Such an encoding keeps ASCII in single bytes and has a table for pairs of bytes. A pair that stands
for nothing is a fault of its first byte alone.

* `pairStep`: the steps of such an encoding;
* `cell?`, `numberedCell?`: the character at a place of a table.
* `textOr`: bytes that stand for more than one character.
-/

namespace Assay.Text

/-- What two bytes stand for. -/
def pairOr (c : Option Char) : Encoding.Step :=
  match c with
  | some c => .char c 2
  | none => .bad .illegal 1

/-- What some bytes stand for that may be more than one character. -/
def textOr (cs : Option (List Char)) (size : Nat) : Encoding.Step :=
  match cs with
  | some [c] => .char c size
  | some cs => .text cs size
  | none => .bad .illegal 1

/-- ASCII in single bytes, all else in pairs. -/
def pairStep (table : Nat → Nat → Option Char) (b : UInt8) (rest : List UInt8) : Encoding.Step :=
  if b.toNat < 0x80 then .char (Char.ofNat b.toNat) 1
  else
    match rest with
    | [] => .short .incomplete
    | c :: _ => pairOr (table b.toNat c.toNat)

/-- The blank that is as wide as an ideograph. -/
def wideBlank : Char := '\u3000'

/-- The character at a place of a row; a blank stands for none. -/
def cell? (rows : List String) (row place : Nat) : Option Char :=
  (rows[row]?).bind fun s => (s.toList[place]?).filter (· != ' ')

/-- The character at a place, counted from one, of a row that is found by its number. -/
def numberedCell? (numbers : List Nat) (rows : List String) (number place : Nat) : Option Char :=
  (numbers.idxOf? number).bind fun i => cell? rows i (place - 1)

end Assay.Text
