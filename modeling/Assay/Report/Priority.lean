import Assay.Issue

/-!
# Order and identity of issues

* `prioritize`: the most severe issues first, and among those of one severity the kinds in order of
  priority; issues of one severity and priority stay as they came;
* `uniqueIds`: the same issues with ids that differ; the first issue of an id keeps it, and every
  later one gets a number after it.
-/

namespace Assay

namespace Issue

/-- Whether an issue may stand before another. -/
def precedes (i j : Issue) : Bool :=
  if i.severity.rank == j.severity.rank then j.kind.priority ≤ i.kind.priority
  else j.severity.rank < i.severity.rank

end Issue

/-- Issues in order of priority. -/
def prioritize (issues : List Issue) : List Issue :=
  issues.mergeSort Issue.precedes

/-- An id with a number after it. -/
def numberedId (id : String) (n : Nat) : String :=
  s!"{id}-{n}"

/-- The first numbered id from `n` on that is not taken, within `fuel` steps. -/
def freeIdFrom (taken : List String) (id : String) : (fuel n : Nat) → String
  | 0, n => numberedId id n
  | fuel + 1, n =>
    if taken.contains (numberedId id n) then freeIdFrom taken id fuel (n + 1) else numberedId id n

/-- The first numbered id from `n` on that is not taken. Of one more ids than are taken, one is
free. -/
def freeId (taken : List String) (id : String) (n : Nat) : String :=
  freeIdFrom taken id (taken.length + 1) n

/-- Gives later issues of an id a number; `seen` are the ids before, `taken` those that may not be
given. -/
def uniqueIdsFrom (seen taken : List String) : List Issue → List Issue
  | [] => []
  | i :: rest =>
    let count := seen.count i.id
    if count = 0 then i :: uniqueIdsFrom (i.id :: seen) taken rest
    else
      let id := freeId taken i.id (count + 1)
      { i with id } :: uniqueIdsFrom (i.id :: seen) (id :: taken) rest

/-- The same issues with ids that differ. -/
def uniqueIds (issues : List Issue) : List Issue :=
  uniqueIdsFrom [] (issues.map (·.id)) issues

end Assay
