import Assay.Proofs.Analysis.Stages
import Assay.Proofs.Parallel
import Assay.Proofs.Parallel.Pool

/-!
# The order in which calls end

Calls that run at once have results in the order of their items, or end in the failure of one of
them. An analysis without a model has then one report, however many files it takes on at once.

* `Parallel.yields_of_ok`: calls none of which fails have results;
* `Parallel.collect_settled`: which are there in the order of their items, as if the calls had ended
  one by one;
* `Analysis.run_settled`: so it is with a whole analysis;
* `Parallel.collect_any_order`: the order in which calls end decides nothing but which of several
  failures is seen.
-/

namespace Assay

namespace Parallel

variable {α β : Type} {f : α → Except Failure β} {items : List α}

theorem yields_of_ok (h : ∀ a ∈ items, ∃ b, f a = .ok b) : ∃ results, Yields f items results := by
  induction items with
  | nil => exact ⟨[], .nil⟩
  | cons a items ih =>
    rw [List.forall_mem_cons] at h
    obtain ⟨⟨b, hb⟩, hrest⟩ := h
    obtain ⟨results, hresults⟩ := ih hrest
    exact ⟨b :: results, .cons hb hresults⟩

/-- Calls none of which fails might as well end one by one. -/
theorem collect_settled (hok : ∀ a ∈ items, ∃ b, f a = .ok b) {ended : List (List Nat)}
    (hended : ∀ k < items.length, k ∈ ended.flatten) :
    collect f items (ended.map .ended) = collect f items (inOrder items.length) := by
  obtain ⟨results, hresults⟩ := yields_of_ok hok
  rw [inOrder_eq, collect_results hresults hended, collect_results hresults (mem_inOrder _)]

end Parallel

/-- The order in which the files by themselves are done with changes nothing in an analysis, not
even what it logs. -/
theorem Analysis.run_settled (clock : Clock) (provider : Option Provider) {units : List SourceUnit}
    (otherPaths : List String) {ended : List (List Nat)}
    (hended : ∀ k < units.length, k ∈ ended.flatten) :
    run ⟨clock, provider, false, ended.map .ended⟩ units otherPaths =
      run ⟨clock, provider, false, Parallel.inOrder units.length⟩ units otherPaths := by
  have hcollect := Parallel.collect_settled (f := fun u => .ok (UnitResult.ofUnit u))
    (fun u _ => ⟨UnitResult.ofUnit u, rfl⟩) hended
  unfold run issues unitIssues
  dsimp only
  rw [hcollect]
  rfl

namespace Parallel

variable {α β : Type} {f : α → Except Failure β} {items : List α}

/-- **The order in which calls end decides nothing.** In whatever rounds all calls end: if none
fails, there are all results, in the order of the items; if some fail, the failure of one of them is
what there is. However many workers are asked for, all calls come to their end, each once, so an
analysis of some files without a model has a report, and it is the same for every number of
workers. -/
theorem collect_any_order {ended : List (List Nat)}
    (hended : ∀ k < items.length, k ∈ ended.flatten) :
    ((∀ a ∈ items, ∃ b, f a = .ok b) → ∃ results, Yields f items results ∧
      collect f items (ended.map .ended) = .ok (results.map some)) ∧
    (∀ a ∈ items, ∀ e, f a = .error e → ∃ a' ∈ items, ∃ e', f a' = .error e' ∧
      collect f items (ended.map .ended) = .error e') ∧
    (∀ wanted : Int, (∃ seen, Pool.Finishes wanted items.length seen) ∧
      ∀ seen, Pool.Finishes wanted items.length seen →
        seen.flatten.Perm (List.range items.length)) ∧
    ∀ (clock : Clock) (units : List SourceUnit) (otherPaths : List String),
      (units ≠ [] → ∃ r, (Analysis.run ⟨clock, none, false, inOrder units.length⟩ units
        otherPaths).outcome = .ok r) ∧
      ∀ (wanted : Int) (seen : List (List Nat)), Pool.Finishes wanted units.length seen →
        Analysis.run ⟨clock, none, false, seen.map .ended⟩ units otherPaths =
          Analysis.run ⟨clock, none, false, inOrder units.length⟩ units otherPaths := by
  refine ⟨fun hok => ?_, fun a ha e hfails => collect_failure hended ha hfails,
    fun wanted => ⟨Pool.exists_finishes wanted _, fun seen hseen => hseen.seen_perm⟩,
    fun clock units otherPaths => ⟨fun hunits => ?_, fun wanted seen hseen =>
      Analysis.run_settled clock none otherPaths hseen.mem_seen⟩⟩
  · obtain ⟨results, hresults⟩ := yields_of_ok hok
    exact ⟨results, hresults, collect_results hresults hended⟩
  · obtain ⟨r, _, hr, _⟩ := Analysis.run_ends clock ((List.range units.length).map fun i => [i])
      otherPaths hunits (Analysis.readable_none units)
    rw [inOrder_eq]
    exact ⟨r, hr⟩

/-- Three calls, of which the last ends first, and one that fails among them. -/
theorem collect_any_order_backwards :
    let items : List Nat := [5, 3, 4]
    let ended : List (List Nat) := [[2], [1, 0]]
    let fails : Failure := .callFailed "bad item 3"
    (∀ k < items.length, k ∈ ended.flatten) ∧
      collect (fun n => .ok (n * n)) items (ended.map .ended) =
        .ok [some 25, some 9, some 16] ∧
      collect (fun n => if n = 3 then .error fails else .ok (n * n)) items (ended.map .ended) =
        .error fails := by
  intro items ended fails
  have hended : ∀ k < items.length, k ∈ ended.flatten := by decide
  refine ⟨hended, ?_, ?_⟩
  · obtain ⟨results, hresults, hcollect⟩ :=
      (collect_any_order (f := fun n : Nat => .ok (n * n)) hended).1 fun n _ => ⟨n * n, rfl⟩
    obtain rfl : results = [25, 9, 16] := by
      simpa [Yields, items, List.forall₂_cons_left_iff] using hresults
    exact hcollect
  · obtain ⟨n, _, e, hfails, hcollect⟩ :=
      (collect_any_order (f := fun n : Nat => if n = 3 then .error fails else .ok (n * n))
        hended).2.1 3 (by decide) fails rfl
    obtain rfl : fails = e := by
      by_cases hn : n = 3
      · simpa [hn] using hfails
      · simp [hn] at hfails
    exact hcollect

end Parallel

end Assay
