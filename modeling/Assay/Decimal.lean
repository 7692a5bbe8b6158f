import Assay.Binary64

/-!
# Floats in decimal

`FloatValue` is a float as a value of its own; of its two zeros one has a sign, but as numbers they
are equal. `FloatValue.shown` writes a float with the fewest digits that read back as the same one,
and of those with the digits nearest to it, the even ones if two are as near; the point is shown
while the first digit stands between the fourth place after it and the sixteenth before it, and an
exponent otherwise. `FloatValue.ofScaled` reads one, and `FloatValue.isLess` compares two.
-/

namespace Assay

/-- A float. -/
inductive FloatValue where
  | finite (q : Rat)
  /-- The zero with a sign. -/
  | minusZero
  | infinite (negative : Bool)
  | undefined
  deriving DecidableEq, Repr

namespace Decimal

/-- Ten to an integer power. -/
def tenPow (e : Int) : Rat :=
  if 0 ≤ e then (Nat.pow 10 e.toNat : Rat) else 1 / (Nat.pow 10 (-e).toNat : Rat)

/-- The number of decimal digits. -/
def digitCount (n : Nat) : Nat :=
  (toString n).length

/-- The exponent `e` with `10 ^ e ≤ q < 10 ^ (e + 1)`, for a positive `q`. -/
def exponent (q : Rat) : Int :=
  let e : Int := (digitCount q.num.natAbs : Int) - digitCount q.den
  if q < tenPow e then e - 1 else e

/-- The multiples of `10 ^ e` on both sides of `q`, the nearer first, or the even one if both are as
near. -/
def neighbours (q : Rat) (e : Int) : List Int :=
  let lower := (q / tenPow e).floor
  if halfEven (q / tenPow e) = lower then [lower, lower + 1] else [lower + 1, lower]

/-- The shortest digits of a positive float and the exponent of the last one, trying `n` digits
first and more as long as there is fuel. -/
def shortestFrom (q : Rat) : (fuel n : Nat) → Int × Int
  | 0, _ => (q.floor, 0)
  | fuel + 1, n =>
    let e := exponent q - n + 1
    match (neighbours q e).find? fun m : Int => Binary64.nearest (m * tenPow e) == q with
    | some m => (m, e)
    | none => shortestFrom q fuel (n + 1)

/-- The shortest digits of a positive float; seventeen always suffice. -/
def shortest (q : Rat) : Int × Int :=
  shortestFrom q 17 1

/-- Some digits, the first of which stands for `10 ^ e`. -/
def place (digits : List Char) (e : Int) : String :=
  if -4 ≤ e ∧ e < 16 then
    if e < 0 then
      "0." ++ String.ofList (List.replicate (-e - 1).toNat '0' ++ digits)
    else
      let whole := digits.take (e.toNat + 1)
      let rest := digits.drop (e.toNat + 1)
      String.ofList (whole ++ List.replicate (e.toNat + 1 - whole.length) '0') ++ "." ++
        String.ofList (if rest.isEmpty then ['0'] else rest)
  else
    let mantissa :=
      match digits with
      | [] => ""
      | [d] => String.ofList [d]
      | d :: rest => String.ofList (d :: '.' :: rest)
    let power := toString e.natAbs
    mantissa ++ (if e < 0 then "e-" else "e+") ++ (if power.length < 2 then "0" else "") ++ power

/-- A positive float. -/
def showPositive (q : Rat) : String :=
  let (m, e) := shortest q
  let digits := ((toString m.natAbs).toList.reverse.dropWhile (· == '0')).reverse
  place digits (e + (digitCount m.natAbs : Int) - 1)

end Decimal

/-- The largest power of ten that a float can have, with room to spare. -/
def Decimal.maxPower : Int := 400

/-- The float nearest to `m * 10 ^ e`. -/
def FloatValue.ofScaled (m : Nat) (e : Int) : FloatValue :=
  let size := (Decimal.digitCount m : Int) + e
  if m = 0 ∨ size < -Decimal.maxPower then finite 0
  else if Decimal.maxPower < size then infinite false
  else
    match Binary64.round (m * Decimal.tenPow e) with
    | some q => finite q
    | none => infinite false

/-- A float with the other sign. -/
def FloatValue.negate : FloatValue → FloatValue
  | finite q => if q = 0 then minusZero else finite (-q)
  | minusZero => finite 0
  | infinite negative => infinite !negative
  | undefined => undefined

/-- A float as a number: the two zeros are one. -/
def FloatValue.asNumber : FloatValue → FloatValue
  | minusZero => finite 0
  | x => x

/-- Whether one float is less than another; what is no number has no order. -/
def FloatValue.isLess (x y : FloatValue) : Bool :=
  match x.asNumber, y.asNumber with
  | finite p, finite q => p < q
  | infinite below, infinite above => below && !above
  | infinite below, finite _ => below
  | finite _, infinite above => !above
  | _, _ => false

/-- Whether a float is not zero. -/
def FloatValue.isNonzero (x : FloatValue) : Bool :=
  x.asNumber != finite 0

/-- A float with the fewest digits that read back. -/
def FloatValue.shown : FloatValue → String
  | finite q =>
    if 0 < q then Decimal.showPositive q
    else if q < 0 then "-" ++ Decimal.showPositive (-q)
    else "0.0"
  | minusZero => "-0.0"
  | infinite negative => if negative then "-inf" else "inf"
  | undefined => "nan"

end Assay
