/-!
# Double precision

Arithmetic on the numbers that a 64-bit binary float can hold, worked out on exact rationals: every
operation is the exact one followed by `Binary64.round`, which goes to the nearest number with 53
binary digits, a tie to the even one.

* `halfEven`: the nearest integer, a tie to the even one;
* `Binary64.round`: the nearest float, if the result is finite;
* `Binary64.divide`: the quotient of two integers.
-/

namespace Assay

/-- The nearest integer, a tie going to the even one. -/
def halfEven (q : Rat) : Int :=
  let lower := q.floor
  let above := q - lower
  if above < 1 / 2 then lower
  else if 1 / 2 < above then lower + 1
  else if lower % 2 = 0 then lower
  else lower + 1

namespace Binary64

/-- Two to an integer power. -/
def twoPow (e : Int) : Rat :=
  if 0 ≤ e then (Nat.pow 2 e.toNat : Rat) else 1 / (Nat.pow 2 (-e).toNat : Rat)

/-- The exponent `e` with `2 ^ e ≤ q < 2 ^ (e + 1)`, for a positive `q`. -/
def exponent (q : Rat) : Int :=
  let e : Int := (Nat.log2 q.num.natAbs : Int) - (Nat.log2 q.den : Int)
  if q < twoPow e then e - 1 else e

/-- The unit in the last place of the numbers around a positive `q`. -/
def ulp (q : Rat) : Rat :=
  twoPow (max (exponent q - 52) (-1074))

/-- The nearest number to a positive `q` that has 53 binary digits. -/
def roundPos (q : Rat) : Rat :=
  (halfEven (q / ulp q) : Rat) * ulp q

/-- The nearest float, whatever its size. -/
def nearest (q : Rat) : Rat :=
  if 0 < q then roundPos q
  else if q < 0 then -roundPos (-q)
  else 0

/-- The least number that is too large for a float. -/
def overflow : Rat :=
  twoPow 1024

/-- The nearest float, unless it is too large. -/
def round (q : Rat) : Option Rat :=
  let r := nearest q
  if r < overflow ∧ -overflow < r then some r else none

/-- The quotient of two integers as a float. -/
def divide (a b : Int) : Rat :=
  nearest (mkRat a 1 / mkRat b 1)

/-- The integer part, toward zero. -/
def truncate (q : Rat) : Int :=
  if 0 ≤ q then q.floor else -(-q).floor

end Binary64

end Assay
