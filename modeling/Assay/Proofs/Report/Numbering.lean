import Mathlib.Order.Bounds.Defs
import Assay.Proofs.Report.Identity

/-!
# The numbers that ids get

Which number a later issue of an id gets is told by the ids alone: those that all issues came with,
and those that the issues before it came with and were left with.

* `MayNumber`: the numbers to choose from;
* `isLeast_lt`: the least of them is found after few tries;
* `Issue.Becomes`: what an issue becomes after others;
* `uniqueIdsFrom_step`, `uniqueIdsFrom_becomes`: one issue in its turn, and so every one;
* `uniqueIds_numbered`: the ids of a list, place by place.
-/

namespace Assay

/-- The numbers that an id may get from `least` on: with them it is no id of `all`, and none of
those `given` before. -/
def MayNumber (all given : List String) (id : String) (least : Nat) : Set Nat :=
  {n | least ≤ n ∧ numberedId id n ∉ all ∧ numberedId id n ∉ given}

/-- The first number of all is found after no more tries than there are ids. -/
theorem isLeast_lt {all given : List String} {id : String} {least n : Nat}
    (h : IsLeast (MayNumber all given id least) n) :
    n < least + (all.length + given.length + 1) := by
  by_contra hn
  refine exists_free (all ++ given) id least fun j hj => ?_
  rw [List.length_append] at hj
  by_contra hfree
  rw [List.mem_append, not_or] at hfree
  have := h.2 (show least + j ∈ MayNumber all given id least from ⟨by omega, hfree⟩)
  omega

/-- The free id has the least number that its id may get, if those are taken that were there or
given before. -/
theorem freeId_isLeast {all taken given : List String}
    (htaken : ∀ x, x ∈ taken ↔ x ∈ all ∨ x ∈ given) (id : String) (least : Nat) :
    ∃ n, IsLeast (MayNumber all given id least) n ∧ freeId taken id least = numberedId id n := by
  obtain ⟨n, hle, heq, hfree, hbefore⟩ := freeId_spec taken id least
  rw [htaken, not_or] at hfree
  refine ⟨n, ⟨⟨hle, hfree⟩, fun m ⟨hm, hall, hgiven⟩ => ?_⟩, heq⟩
  by_contra hlt
  rcases (htaken _).mp (hbefore m hm (Nat.lt_of_not_le hlt)) with h | h
  · exact hall h
  · exact hgiven h

/-- What an issue becomes. The ids of `all` issues are never given; `before` are those that the
issues before it came with, and `given` those that they were left with. -/
structure Issue.Becomes (all before given : List String) (i j : Issue) : Prop where
  same : i.SameButId j
  first : i.id ∉ before → j = i
  /-- A later issue of an id gets its number among them or else the next that it may get, after no
  more tries than there are ids. -/
  later : i.id ∈ before → ∃ n, IsLeast (MayNumber all given i.id (before.count i.id + 1)) n ∧
    j.id = numberedId i.id n ∧
    n < before.count i.id + 1 + (all.length + given.length + 1)

section

variable {all seen taken before given : List String}

theorem Issue.Becomes.of_notMem {i : Issue} (h : i.id ∉ before) :
    i.Becomes all before given i :=
  ⟨rfl, fun _ => rfl, fun hmem => absurd hmem h⟩

theorem Issue.Becomes.of_mem {i : Issue} (h : i.id ∈ before)
    (htaken : ∀ x, x ∈ taken ↔ x ∈ all ∨ x ∈ given) :
    i.Becomes all before given { i with id := freeId taken i.id (before.count i.id + 1) } := by
  obtain ⟨n, hleast, heq⟩ := freeId_isLeast htaken i.id (before.count i.id + 1)
  exact ⟨rfl, fun hnot => absurd h hnot, fun _ => ⟨n, hleast, heq, isLeast_lt hleast⟩⟩

/-- One issue in its turn, where the ids seen are those before, and those taken are the ones that
were there or given: it becomes what it should, and its new id is the only one that is taken with
it. -/
theorem uniqueIdsFrom_step (hseen : ∀ x, seen.count x = before.count x)
    (htaken : ∀ x, x ∈ taken ↔ x ∈ all ∨ x ∈ given) {i : Issue} (hi : i.id ∈ all)
    (rest : List Issue) :
    ∃ j taken', uniqueIdsFrom seen taken (i :: rest) =
        j :: uniqueIdsFrom (i.id :: seen) taken' rest ∧
      i.Becomes all before given j ∧ ∀ x, x ∈ taken' ↔ x ∈ all ∨ x ∈ given ++ [j.id] := by
  by_cases hlater : i.id ∈ before
  · have hcount : before.count i.id ≠ 0 := fun hzero => List.count_eq_zero.mp hzero hlater
    refine ⟨_, freeId taken i.id (before.count i.id + 1) :: taken, ?_, .of_mem hlater htaken,
      fun x => ?_⟩
    · simp only [uniqueIdsFrom, hseen, if_neg hcount]
    · rw [List.mem_cons, htaken, List.mem_append, List.mem_singleton, or_comm, or_assoc]
  · have hcount : before.count i.id = 0 := List.count_eq_zero.mpr hlater
    refine ⟨i, taken, ?_, .of_notMem hlater, fun x => ?_⟩
    · simp only [uniqueIdsFrom, hseen, if_pos hcount]
    · rw [htaken, List.mem_append, List.mem_singleton]
      constructor
      · exact Or.imp_right Or.inl
      · rintro (h | h | rfl)
        · exact .inl h
        · exact .inr h
        · exact .inl hi

/-- So every issue becomes what it should in its turn. -/
theorem uniqueIdsFrom_becomes (hseen : ∀ x, seen.count x = before.count x)
    (htaken : ∀ x, x ∈ taken ↔ x ∈ all ∨ x ∈ given) {issues : List Issue}
    (hall : ∀ i ∈ issues, i.id ∈ all) {p : Nat} {i : Issue} (hi : issues[p]? = some i) :
    ∃ j, (uniqueIdsFrom seen taken issues)[p]? = some j ∧
      i.Becomes all (before ++ (issues.take p).map (·.id))
        (given ++ ((uniqueIdsFrom seen taken issues).take p).map (·.id)) j := by
  induction issues generalizing seen taken before given p with
  | nil => simp at hi
  | cons i' rest ih =>
    obtain ⟨hi', hrest⟩ := List.forall_mem_cons.mp hall
    obtain ⟨j', taken', heq, hbecomes', htaken'⟩ := uniqueIdsFrom_step hseen htaken hi' rest
    rw [heq]
    cases p with
    | zero =>
      obtain rfl : i' = i := by simpa using hi
      exact ⟨j', rfl, by simpa using hbecomes'⟩
    | succ p =>
      have hseen' : ∀ x, (i'.id :: seen).count x = (before ++ [i'.id]).count x := by
        intro x
        simp only [List.count_cons, List.count_append, List.count_nil, hseen, Nat.zero_add]
      obtain ⟨j, hj, hbecomes⟩ := ih hseen' htaken' hrest (by simpa using hi)
      exact ⟨j, by simpa using hj, by simpa using hbecomes⟩

end

/-- **Ids that differ.** Of a list of issues all stay, in their places, and keep all but their ids,
no two of which are the same. The first issue of an id keeps it; the second, the third and so on
gets the least number from two, three and so on that makes an id which no issue came with and none
before it was given, and that number is found. -/
theorem uniqueIds_numbered (issues : List Issue) :
    (uniqueIds issues).length = issues.length ∧ ((uniqueIds issues).map (·.id)).Nodup ∧
      ∀ p (i : Issue), issues[p]? = some i → ∃ j, (uniqueIds issues)[p]? = some j ∧
        i.Becomes (issues.map (·.id)) ((issues.take p).map (·.id))
          (((uniqueIds issues).take p).map (·.id)) j := by
  refine ⟨(uniqueIds_same issues).length_eq.symm, uniqueIds_nodup issues, fun p i hi => ?_⟩
  have hall : ∀ i ∈ issues, i.id ∈ issues.map (·.id) := fun _ => List.mem_map_of_mem
  have htaken : ∀ x, x ∈ issues.map (·.id) ↔ x ∈ issues.map (·.id) ∨ x ∈ ([] : List String) := by
    simp
  exact uniqueIdsFrom_becomes (fun _ => rfl) htaken hall hi

/-- A number that is there already is passed over, and one that was given is not given again. -/
theorem uniqueIds_numbered_clash :
    let i : Issue := ⟨"x", .security, .low, "", "", "", none, "", "", .low⟩
    let issues := [i, i, { i with id := "x-2" }, i]
    issues[3]? = some i ∧ ∃ j, (uniqueIds issues)[3]? = some j ∧ j.id = "x-4" ∧
      i.Becomes ["x", "x", "x-2", "x"] ["x", "x", "x-2"] ["x", "x-3", "x-2"] j := by
  intro i issues
  obtain ⟨_, _, hplaces⟩ := uniqueIds_numbered issues
  obtain ⟨j, hj, hbecomes⟩ := hplaces 3 i rfl
  have hgiven : ((uniqueIds issues).take 3).map (·.id) = ["x", "x-3", "x-2"] := by decide
  have hlast : ((uniqueIds issues)[3]?).map (·.id) = some "x-4" := by decide
  rw [hgiven] at hbecomes
  rw [hj] at hlast
  exact ⟨rfl, j, hj, Option.some.inj hlast, hbecomes⟩

end Assay
