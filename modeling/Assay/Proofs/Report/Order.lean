import Mathlib.Data.List.Sort
import Assay.Report.Priority

/-!
# Issues in order

* `prioritize_perm`: ordering loses and doubles no issue;
* `prioritize_sorted`: severities do not rise, and among issues of one severity neither do the
  priorities of their kinds;
* `prioritize_stable`: issues of one severity and priority stay as they came.
-/

namespace Assay

namespace Issue

/-- Whether an issue has a severity and a priority of given ranks. -/
def hasRanks (rank priority : Nat) (i : Issue) : Bool :=
  i.severity.rank == rank && i.kind.priority == priority

theorem precedes_iff (i j : Issue) : i.precedes j = true ↔
    j.severity.rank < i.severity.rank ∨
      (j.severity.rank = i.severity.rank ∧ j.kind.priority ≤ i.kind.priority) := by
  unfold precedes
  split
  · rename_i h
    have h := beq_iff_eq.mp h
    simp [h]
  · rename_i h
    have h : i.severity.rank ≠ j.severity.rank := by simpa using h
    simp [h.symm]

theorem precedes_trans (i j k : Issue) (hij : i.precedes j = true) (hjk : j.precedes k = true) :
    i.precedes k = true := by
  rw [precedes_iff] at *
  omega

theorem precedes_total (i j : Issue) : (i.precedes j || j.precedes i) = true := by
  rw [Bool.or_eq_true, precedes_iff, precedes_iff]
  omega

theorem precedes_of_hasRanks {rank priority : Nat} {i j : Issue}
    (hi : i.hasRanks rank priority = true) (hj : j.hasRanks rank priority = true) :
    i.precedes j = true := by
  simp only [hasRanks, Bool.and_eq_true, beq_iff_eq] at hi hj
  rw [precedes_iff]
  omega

end Issue

theorem prioritize_perm (issues : List Issue) : (prioritize issues).Perm issues :=
  List.mergeSort_perm issues Issue.precedes

theorem prioritize_sorted (issues : List Issue) :
    (prioritize issues).Pairwise fun i j => i.precedes j = true :=
  List.pairwise_mergeSort Issue.precedes_trans Issue.precedes_total issues

/-- Issues of one severity and priority stay as they came. -/
theorem prioritize_stable (issues : List Issue) (rank priority : Nat) :
    (prioritize issues).filter (Issue.hasRanks rank priority) =
      issues.filter (Issue.hasRanks rank priority) := by
  have hsorted : (issues.filter (Issue.hasRanks rank priority)).Pairwise
      fun i j => i.precedes j = true := by
    apply List.pairwise_filter.mpr
    apply List.pairwise_of_forall
    exact fun i j hi hj => Issue.precedes_of_hasRanks hi hj
  have hsub := (List.sublist_mergeSort Issue.precedes_trans Issue.precedes_total hsorted
    List.filter_sublist).filter (Issue.hasRanks rank priority)
  simp only [List.filter_filter, Bool.and_self] at hsub
  have hperm := (prioritize_perm issues).filter (Issue.hasRanks rank priority)
  exact (hsub.eq_of_length hperm.length_eq.symm).symm

end Assay
