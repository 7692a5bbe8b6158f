import Assay.Text.Encoding.SingleByte

/-!
# Labels in ASCII

A label with characters that ASCII does not have is written with its ASCII characters first and then
the others, in the order of their codes: for each the number of steps from the one before, counted
over all places in the text and all codes. A number is written with its smallest digit first; the
digits before which a number can end grow and shrink with the numbers before.

* `Punycode.encode`, `Punycode.decode?`: writing and reading;
* `Punycode.text`: reading as far as can be.
-/

namespace Assay.Web.Punycode

/-- The number of digits. -/
def base : Nat := 36

/-- A digit below this ends a number, at a place. -/
def threshold (place bias : Nat) : Nat :=
  min 26 (max 1 (base * (place + 1) - bias))

/-- The bias of a step that has been made smaller. -/
def shrink (delta places : Nat) : Nat :=
  if 455 < delta then shrink (delta / 35) (places + base) else places + base * delta / (delta + 38)
termination_by delta
decreasing_by omega

/-- The bias after a step; `count` is the length of the text with the new character. -/
def adapt (delta : Nat) (first : Bool) (count : Nat) : Nat :=
  let delta := if first then delta / 700 else delta / 2
  shrink (delta + delta / count) 0

/-- The bias before the first step. -/
def firstBias : Nat := 72

/-- The code before that of the first character to be inserted. -/
def firstCode : Nat := 128

/-- A digit: letters first. -/
def digit (n : Nat) : Char :=
  if n < 26 then Char.ofNat (97 + n) else Char.ofNat (22 + n)

/-- The value of a digit of either case. -/
def digitValue? (c : Char) : Option Nat :=
  if c.isLower then some (c.toNat - 97)
  else if c.isUpper then some (c.toNat - 65)
  else if c.isDigit then some (c.toNat - 22)
  else none

/-- A number, from a place on. A number has no more digits than its value has steps. -/
def writeNumber (bias : Nat) : (fuel place n : Nat) → List Char
  | 0, _, _ => []
  | fuel + 1, place, n =>
    let t := threshold place bias
    if n < t then [digit n]
    else digit (t + (n - t) % (base - t)) ::
      writeNumber bias fuel (place + 1) ((n - t) / (base - t))

/-- Where the writing of the other characters stands. -/
structure Pen where
  /-- The code of the last character. -/
  code : Nat := firstCode
  /-- The steps since then. -/
  delta : Nat := 0
  bias : Nat := firstBias
  /-- The characters that a reader has. -/
  known : Nat
  isFirst : Bool := true
  written : List Char := []

/-- Writes those characters of a text that have a code. -/
def Pen.writeCode (s : List Char) (p : Pen) (code : Nat) : Pen :=
  let p := { p with delta := p.delta + (code - p.code) * (p.known + 1), code }
  let p := s.foldl (fun p c =>
    if c.toNat < code then { p with delta := p.delta + 1 }
    else if c.toNat = code then
      { p with
        delta := 0
        bias := adapt p.delta p.isFirst (p.known + 1)
        known := p.known + 1
        isFirst := false
        written := p.written ++ writeNumber p.bias (p.delta + 1) 0 p.delta }
    else p) p
  { p with delta := p.delta + 1, code := code + 1 }

/-- A label in ASCII, without a prefix. -/
def encode (s : List Char) : List Char :=
  let plain := s.filter fun c => c.toNat < firstCode
  let codes := ((s.map Char.toNat).filter (firstCode ≤ ·)).eraseDups.mergeSort
  let p := codes.foldl (Pen.writeCode s) { known := plain.length }
  (if plain.isEmpty then [] else plain ++ ['-']) ++ p.written

/-- Reads a number; `total` is the value of the digits before. -/
def readNumber? (bias weight place total : Nat) : List Char → Option (Nat × List Char)
  | [] => none
  | c :: rest => do
    let d ← digitValue? c
    let total := total + d * weight
    let t := threshold place bias
    if d < t then return (total, rest)
    else readNumber? bias (weight * (base - t)) (place + 1) total rest

/-- Inserts characters into a text. Every number takes a digit. -/
def insertAll? (s : List Char) (code place bias : Nat) (first : Bool) :
    (fuel : Nat) → List Char → Option (List Char)
  | _, [] => some s
  | 0, _ => none
  | fuel + 1, digits => do
    let (delta, rest) ← readNumber? bias 1 0 0 digits
    let place := place + delta
    let code := code + place / (s.length + 1)
    let place := place % (s.length + 1)
    if code.isValidChar then
      let s := s.take place ++ Char.ofNat code :: s.drop place
      insertAll? s code (place + 1) (adapt delta first s.length) false fuel rest
    else none

/-- Reads a label without its prefix. -/
def decode? (s : List Char) : Option (List Char) :=
  let digits := (s.reverse.takeWhile (· != '-')).reverse
  let plain := s.take (s.length - digits.length - 1)
  insertAll? plain firstCode 0 firstBias true digits.length digits

/-- Inserts characters into a text up to the first number that cannot be read. A code that is too
large stands for a question mark. -/
def insertSome (s : List Char) (code place bias : Nat) (first : Bool) :
    (fuel : Nat) → List Char → List Char
  | _, [] => s
  | 0, _ => s
  | fuel + 1, digits =>
    match readNumber? bias 1 0 0 digits with
    | none => s
    | some (delta, rest) =>
      let place := place + delta
      let next := code + place / (s.length + 1)
      let code := if next < 0x110000 then next else '?'.toNat
      let place := place % (s.length + 1)
      let s := s.take place ++ Text.charOf code :: s.drop place
      insertSome s code (place + 1) (adapt delta first s.length) false fuel rest

/-- The text of bytes. In front of the last hyphen every byte that ASCII does not have is a
replacement; behind it there must be none. -/
def text (bytes : List UInt8) : Except Text.CharsetFault (List Char) := do
  let behind := (bytes.reverse.takeWhile (· != 0x2D)).reverse
  let plain := Text.ascii.lenient (bytes.take (bytes.length - behind.length - 1))
  let digits ← (Text.ascii.strict 0 behind).mapError .bytes
  return insertSome plain firstCode 0 firstBias true digits.length digits

end Assay.Web.Punycode
