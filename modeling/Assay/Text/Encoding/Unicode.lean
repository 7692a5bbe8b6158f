import Assay.Text.Encoding.Basic

/-!
# The encodings of Unicode

* `utf8`: one to four bytes a character, of which the first tells how many follow;
* `utf16`: units of two bytes, where two units with surrogate codes stand for one character;
* `utf32`: four bytes a character.

The last two come in two orders of bytes. With `halves`, half of a pair on its own is read too.
-/

namespace Assay.Text

/-- What the first byte of a longer character announces: how many bytes follow, the interval of the
first of them, and the bits that the first byte contributes. -/
def leadBytes? (b : Nat) : Option (Nat × Nat × Nat × Nat) :=
  if 0xC2 ≤ b ∧ b ≤ 0xDF then some (1, 0x80, 0xBF, b - 0xC0)
  else if b = 0xE0 then some (2, 0xA0, 0xBF, 0)
  else if b = 0xED then some (2, 0x80, 0x9F, 0xD)
  else if 0xE1 ≤ b ∧ b ≤ 0xEF then some (2, 0x80, 0xBF, b - 0xE0)
  else if b = 0xF0 then some (3, 0x90, 0xBF, 0)
  else if 0xF1 ≤ b ∧ b ≤ 0xF3 then some (3, 0x80, 0xBF, b - 0xF0)
  else if b = 0xF4 then some (3, 0x80, 0x8F, 4)
  else none

/-- A character of which `size` bytes are read and some are owed; the next one lies in an
interval. -/
def utf8Rest (owed low high bits size : Nat) : List UInt8 → Encoding.Step
  | [] => .short .unexpectedEnd
  | b :: rest =>
    let n := b.toNat
    if low ≤ n ∧ n ≤ high then
      let bits := bits * 64 + (n - 0x80)
      if owed ≤ 1 then .char (Char.ofNat bits) (size + 1)
      else utf8Rest (owed - 1) 0x80 0xBF bits (size + 1) rest
    else .bad .invalidContinuation size

/-- One to four bytes a character. -/
def utf8 : Encoding where
  name := "utf-8"
  step b rest :=
    if b.toNat < 0x80 then .char (Char.ofNat b.toNat) 1
    else
      match leadBytes? b.toNat with
      | some (owed, low, high, bits) => utf8Rest owed low high bits 1 rest
      | none => .bad .invalidStart 1

/-- A text in UTF-8, with a replacement for every longest run of bytes that starts a character
without an end. -/
def decode (bytes : List UInt8) : List Char :=
  utf8.lenient bytes

/-- The number that some bytes form. -/
def numberOf (big : Bool) (bytes : List UInt8) : Nat :=
  (if big then bytes else bytes.reverse).foldl (fun n b => 256 * n + b.toNat) 0

/-- The first unit of a pair. -/
def isLeading (n : Nat) : Bool :=
  0xD800 ≤ n && n < 0xDC00

/-- The second unit of a pair. -/
def isTrailing (n : Nat) : Bool :=
  0xDC00 ≤ n && n < 0xE000

/-- The character of a pair of units. -/
def ofPair (leading trailing : Nat) : Char :=
  Char.ofNat (0x10000 + (leading - 0xD800) * 0x400 + (trailing - 0xDC00))

/-- Units of two bytes, the first of a unit being the big end or the little one. -/
def utf16 (big halves : Bool) : Encoding where
  name := if big then "utf-16-be" else "utf-16-le"
  step b rest :=
    match rest with
    | [] => .short .truncated
    | c :: rest =>
      let n := numberOf big [b, c]
      let half (s : Encoding.Step) : Encoding.Step := if halves then .char (halfChar n) 2 else s
      if isTrailing n then half (.bad .illegalEncoding 2)
      else if !isLeading n then .char (Char.ofNat n) 2
      else
        match rest with
        | d :: e :: _ =>
          let m := numberOf big [d, e]
          if isTrailing m then .char (ofPair n m) 4 else half (.bad .illegalSurrogate 2)
        | _ => half (.short .unexpectedEnd)

/-- Four bytes a character. -/
def utf32 (big halves : Bool) : Encoding where
  name := if big then "utf-32-be" else "utf-32-le"
  step b rest :=
    match rest with
    | c :: d :: e :: _ =>
      let n := numberOf big [b, c, d, e]
      if isLeading n || isTrailing n then
        if halves then .char (halfChar n) 4 else .bad .surrogate 4
      else if n < 0x110000 then .char (Char.ofNat n) 4
      else .bad .codeTooLarge 4
    | _ => .short .truncated

end Assay.Text
