/-!
# Similar words

Two words are as similar as the parts that they share: the longest part first, and then the parts
shared on its left and on its right.

* `sharedLength`: how many characters two words share;
* `isClose`: whether they share enough;
* `closest`: the words that come closest to one.
-/

namespace Assay.Text

/-- How many characters two texts have in common at their starts. -/
def commonStart : List Char → List Char → Nat
  | a :: as, b :: bs => if a == b then commonStart as bs + 1 else 0
  | _, _ => 0

/-- The longest part that starts `a` and stands somewhere in `b`: where it stands there, and its
length. Of parts equally long the first counts; `i` is the place of the rest of `b`. -/
def longestIn (a : List Char) (i : Nat) : List Char → Nat × Nat
  | [] => (i, 0)
  | b :: bs =>
    let here := commonStart a (b :: bs)
    let (j, n) := longestIn a (i + 1) bs
    if n ≤ here then (i, here) else (j, n)

/-- The longest part of `a` that stands in `b`: where it stands in both, and its length. -/
def longestShared (b : List Char) (i : Nat) : List Char → Nat × Nat × Nat
  | [] => (i, 0, 0)
  | a :: as =>
    let (j, here) := longestIn (a :: as) 0 b
    let (i', j', n) := longestShared b (i + 1) as
    if n ≤ here then (i, j, here) else (i', j', n)

/-- How many characters two texts share, looking for at most `fuel` parts inside each other. -/
def sharedFrom : (fuel : Nat) → List Char → List Char → Nat
  | 0, _, _ => 0
  | fuel + 1, a, b =>
    let (i, j, n) := longestShared b 0 a
    if n = 0 then 0
    else
      sharedFrom fuel (a.take i) (b.take j) + n + sharedFrom fuel (a.drop (i + n)) (b.drop (j + n))

/-- How many characters two words share; there are no more parts than characters. -/
def sharedLength (a b : String) : Nat :=
  sharedFrom (a.length + 1) a.toList b.toList

/-- Whether two words share at least six tenths of their characters. -/
def isClose (a b : String) : Bool :=
  decide (6 * (a.length + b.length) ≤ 20 * sharedLength a b)

/-- How many words are offered at most. -/
def offered : Nat := 3

/-- The words of a list that come closest to a word, in the order of the alphabet. -/
def closest (word : String) (words : List String) : List String :=
  let score (w : String) : Rat := mkRat (sharedLength w word) (w.length + word.length)
  let near := words.filter fun w => isClose w word
  let ranked := near.mergeSort fun a b =>
    decide (score b < score a) || (score a == score b && !decide (a < b))
  (ranked.take offered).mergeSort fun a b => !decide (b < a)

end Assay.Text
