import Assay.Text.Encoding.Unicode

/-!
# Encodings with states

What a byte stands for may depend on those before it. Such an encoding is a machine: each turn takes
in some bytes, gives out some characters and goes on to a state. A replacement character stands for
a fault, but for those that end all reading.

* `Machine`, `Machine.text`: a machine, and the text that it gives out;
* `utf7`: characters outside ASCII as the digits of their units in base 64.
-/

namespace Assay.Text

/-- What a turn takes in, what it gives out, and the state after it. At least one byte is taken
in. -/
structure Turn (σ : Type) where
  size : Nat
  out : List Char
  state : σ

/-- An encoding with states. -/
structure Machine (σ : Type) where
  start : σ
  turn : σ → UInt8 → List UInt8 → Turn σ
  /-- What is given out at the end. -/
  finish : σ → List Char
  /-- The fault for which nothing is read at all, where the bytes from a place on have one. -/
  stop? : σ → List UInt8 → Option CharsetFault := fun _ _ => none

namespace Machine

variable {σ : Type}

/-- The text from a state on; `done` is the text before, in reverse. -/
def textFrom (m : Machine σ) (s : σ) (done : List Char) :
    List UInt8 → Except CharsetFault (List Char)
  | [] => .ok (done.reverse ++ m.finish s)
  | b :: rest =>
    match m.stop? s (b :: rest) with
    | some fault => .error fault
    | none =>
      let t := m.turn s b rest
      textFrom m t.state (t.out.reverse ++ done) (rest.drop (t.size - 1))
termination_by bytes => bytes.length
decreasing_by simp only [List.length_drop, List.length_cons]; omega

/-- The text of bytes. -/
def text (m : Machine σ) (bytes : List UInt8) : Except CharsetFault (List Char) :=
  m.textFrom m.start [] bytes

end Machine

/-- Where a text in base 64 stands. -/
inductive Shift where
  | outside
  /-- After the sign that opens a run of digits. -/
  | opened
  /-- After some digits: the number of bits left over from them, those bits, and the first unit of a
  pair. -/
  | inside (count bits : Nat) (leading : Option Nat)

/-- The value of a digit of base 64. -/
def base64Value? (n : Nat) : Option Nat :=
  if 0x41 ≤ n ∧ n ≤ 0x5A then some (n - 0x41)
  else if 0x61 ≤ n ∧ n ≤ 0x7A then some (n - 0x61 + 26)
  else if 0x30 ≤ n ∧ n ≤ 0x39 then some (n - 0x30 + 52)
  else if n = 0x2B then some 62
  else if n = 0x2F then some 63
  else none

/-- A unit after the first unit of a pair, if there is one. -/
def unitAfter (leading : Option Nat) (unit : Nat) : List Char × Option Nat :=
  match leading with
  | some first =>
    if isTrailing unit then ([ofPair first unit], none)
    else if isLeading unit then ([halfChar first], some unit)
    else ([halfChar first, charOf unit], none)
  | none => if isLeading unit then ([], some unit) else ([charOf unit], none)

/-- One more digit. -/
def shiftDigit (count bits : Nat) (leading : Option Nat) (value : Nat) : Turn Shift :=
  let count := count + 6
  let bits := bits * 64 + value
  if count < 16 then ⟨1, [], .inside count bits leading⟩
  else
    let left := count - 16
    let (out, leading) := unitAfter leading (bits / Nat.pow 2 left)
    ⟨1, out, .inside left (bits % Nat.pow 2 left) leading⟩

/-- A byte outside a run of digits. -/
def shiftOutside (n : Nat) : Turn Shift :=
  if n = 0x2B then ⟨1, [], .opened⟩
  else if n < 0x80 then ⟨1, [Char.ofNat n], .outside⟩
  else ⟨1, [replacement], .outside⟩

/-- Bits that make up no unit should be few and zero. -/
def isLeftOver (count bits : Nat) : Bool :=
  6 ≤ count || (0 < count && bits != 0)

/-- The end of a run of digits at a byte, of which a hyphen belongs to the run. -/
def shiftEnd (count bits : Nat) (leading : Option Nat) (n : Nat) : Turn Shift :=
  if isLeftOver count bits then ⟨1, [replacement], .outside⟩
  else
    let lone := if n < 0x80 && n != 0x2B then (leading.map halfChar).toList else []
    if n = 0x2D then ⟨1, lone, .outside⟩
    else
      let t := shiftOutside n
      { t with out := lone ++ t.out }

/-- Characters outside ASCII as the digits of their units in base 64, between a plus sign and a
hyphen. -/
def utf7 : Machine Shift where
  start := .outside
  turn s b _ :=
    let n := b.toNat
    match s with
    | .outside => shiftOutside n
    | .opened =>
      if n = 0x2D then ⟨1, ['+'], .outside⟩
      else
        match base64Value? n with
        | some v => shiftDigit 0 0 none v
        | none => ⟨1, [replacement], .outside⟩
    | .inside count bits leading =>
      match base64Value? n with
      | some v => shiftDigit count bits leading v
      | none => shiftEnd count bits leading n
  finish
    | .inside count bits leading =>
      if leading.isSome || isLeftOver count bits then [replacement] else []
    | _ => []

end Assay.Text
