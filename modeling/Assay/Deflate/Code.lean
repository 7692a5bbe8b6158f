/-!
# Prefix codes

A code gives each of some symbols a word of bits, none of which starts another. It is given by the
lengths of its words: shorter words come first, and words of one length are numbered in the order of
their symbols.

* `Bits`, `Halt`: what is read, and why reading stops;
* `Code.ofLengths?`: a code, if there is one with words of these lengths;
* `Code.read`: the symbol of the next word.
-/

namespace Assay.Deflate

/-- What is wrong with compressed bytes. -/
inductive Fault where
  | header
  | method
  | window
  /-- The bytes build upon others that are not there. -/
  | needsOthers
  | blockKind
  | storedLengths
  | symbolCount
  | lengthCode
  | lengthRepeat
  | noBlockEnd
  | literalCode
  | distanceCode
  | literal
  | distance
  | farDistance
  | checksum
  deriving DecidableEq, Repr

namespace Fault

/-- The number under which a fault is reported. -/
def number : Fault → Int
  | needsOthers => 2
  | _ => -3

def text : Fault → String
  | header => ": incorrect header check"
  | method => ": unknown compression method"
  | window => ": invalid window size"
  | needsOthers => ""
  | blockKind => ": invalid block type"
  | storedLengths => ": invalid stored block lengths"
  | symbolCount => ": too many length or distance symbols"
  | lengthCode => ": invalid code lengths set"
  | lengthRepeat => ": invalid bit length repeat"
  | noBlockEnd => ": invalid code -- missing end-of-block"
  | literalCode => ": invalid literal/lengths set"
  | distanceCode => ": invalid distances set"
  | literal => ": invalid literal/length code"
  | distance => ": invalid distance code"
  | farDistance => ": invalid distance too far back"
  | checksum => ": incorrect data check"

def message (f : Fault) : String :=
  s!"Error {f.number} while decompressing data" ++ f.text

end Fault

/-- The bits of some bytes, the low bit of a byte first. -/
abbrev Bits : Type := List Bool

/-- Why reading stops. -/
inductive Halt where
  /-- There are no more bits. -/
  | starved
  | faulty (f : Fault)
  deriving DecidableEq, Repr

/-- The bits of a byte, the low bit first. -/
def bitsOfByte (b : UInt8) : Bits :=
  (List.range 8).map fun i => b.toNat.testBit i

/-- The bits of some bytes. -/
def bitsOf (bytes : List UInt8) : Bits :=
  bytes.flatMap bitsOfByte

/-- The number that some bits form, the low bit first. -/
def numberOf : Bits → Nat
  | [] => 0
  | b :: rest => b.toNat + 2 * numberOf rest

/-- Reads a number of some bits. -/
def readNumber (n : Nat) (s : Bits) : Except Halt (Nat × Bits) :=
  let taken := s.take n
  if taken.length < n then .error .starved else .ok (numberOf taken, s.drop n)

/-- A code by the symbols of its words of one bit, of two bits and so on. -/
structure Code where
  rows : List (List Nat)
  deriving DecidableEq, Repr

namespace Code

/-- The longest word. -/
def maxLength : Nat := 15

/-- The symbols whose words have a length. -/
def symbolsOf (lengths : List Nat) (n : Nat) : List Nat :=
  (List.range lengths.length).filter fun i => lengths.getD i 0 == n

/-- The code with words of some lengths; a length of zero stands for no word. -/
def ofLengths (lengths : List Nat) : Code :=
  let longest := lengths.foldl max 1
  ⟨(List.range longest).map fun n => symbolsOf lengths (n + 1)⟩

/-- How many words remain that could be given; `spare` are those of the length before. -/
def spareWords (spare : Int) : List (List Nat) → Option Int
  | [] => some spare
  | row :: rows =>
    let spare := 2 * spare - row.length
    if spare < 0 then none else spareWords spare rows

/-- The code with words of some lengths, if there are enough words. A code with words to spare is
refused, except that one with no words at all will do, and one with a single word of one bit unless
`strict`. -/
def ofLengths? (strict : Bool) (lengths : List Nat) : Option Code :=
  let c := ofLengths lengths
  match spareWords 1 c.rows with
  | none => none
  | some spare =>
    let isBare := lengths.all (· == 0)
    let isSingle := !strict && c.rows.length == 1
    if spare = 0 ∨ isBare ∨ isSingle then some c else none

/-- Reads a word; `word` are its bits so far and `first` the first word of their number. Nothing is
found where no word goes on like this. -/
def readFrom (word first : Nat) : List (List Nat) → Bits → Except Halt (Option Nat × Bits)
  | [], s => .ok (none, s)
  | _ :: _, [] => .error .starved
  | row :: rows, b :: s =>
    let word := 2 * word + b.toNat
    match row[word - first]? with
    | some symbol => .ok (some symbol, s)
    | none => readFrom word (2 * (first + row.length)) rows s

/-- Reads the symbol of the next word. -/
def read (c : Code) (s : Bits) : Except Halt (Option Nat × Bits) :=
  readFrom 0 0 c.rows s

end Code

end Assay.Deflate
