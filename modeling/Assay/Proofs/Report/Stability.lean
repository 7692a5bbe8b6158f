import Assay.Proofs.Report.Contract

/-!
# A report of the issues of a report

Making a report gives issues ids that differ and puts them in order. Both are done when they come
out, and all else is told of them as they come out; so the report of them is the same again.

* `prioritize_eq_self`: issues that are in order stay as they are;
* `Report.build_congr`: a report does not depend on how its issues came, only on how they come out;
* `Report.build_again`: a report of its own issues is the same report.
-/

namespace Assay

theorem prioritize_eq_self {issues : List Issue}
    (h : issues.Pairwise fun i j => i.precedes j = true) : prioritize issues = issues :=
  List.mergeSort_of_pairwise h

/-- A time that was given is taken, whatever the present is. -/
theorem timestampOr_given {time : String} (htime : time ≠ "") (now : String) :
    timestampOr now (some time) = time := by
  have hempty : time.isEmpty = false := by simpa using htime
  simp [timestampOr, hempty]

namespace Report

variable {units : List SourceUnit} {issues : List Issue} {timestamp : String}

/-- The issues of a report are those it was made of, with ids that differ and in order. -/
theorem build_issues {r : Report} (h : build units issues timestamp = .ok r) :
    r.issues = prioritize (uniqueIds issues) := by
  obtain ⟨_, _, _, rfl⟩ := build_eq_ok h
  rfl

/-- Issues that come out the same make the same report. -/
theorem build_congr {others : List Issue} (hissues : ∀ i ∈ issues, i.Placed units)
    (hothers : ∀ i ∈ others, i.Placed units)
    (h : prioritize (uniqueIds issues) = prioritize (uniqueIds others)) :
    build units issues timestamp = build units others timestamp := by
  unfold build
  rw [find?_foreign hissues, find?_foreign hothers]
  dsimp only
  rw [h]

namespace Describes

variable {r : Report}

/-- The issues of a report are about the files that it was made of. -/
theorem placed (h : r.Describes units issues) (hissues : ∀ i ∈ issues, i.Placed units) :
    ∀ j ∈ r.issues, j.Placed units := by
  intro j hj
  obtain ⟨i, hi, hsame⟩ := h.exists_same hj
  rw [hsame]
  exact hissues i hi

/-- The issues of a report come out of another as they are. -/
theorem settled (h : r.Describes units issues) : prioritize (uniqueIds r.issues) = r.issues := by
  rw [uniqueIds_eq_self h.nodup]
  apply prioritize_eq_self
  exact h.sorted.imp fun hij => (Issue.precedes_iff _ _).mpr hij

end Describes

/-- **A report of the issues of a report is the same report.** Where there are files and all issues
are about them or the project, a report is made; and the report made of its issues, in their order
and with their ids, for the same files and time, is equal to it, whatever the clock says at either
time. -/
theorem build_again (hunits : units ≠ []) (hissues : ∀ i ∈ issues, i.Placed units)
    {time : String} (htime : time ≠ "") (now later : String) :
    ∃ r, build units issues (timestampOr now (some time)) = .ok r ∧
      build units r.issues (timestampOr later (some time)) = .ok r := by
  rw [timestampOr_given htime, timestampOr_given htime]
  obtain ⟨r, hr, hdescribes⟩ := build_ok time hunits hissues
  refine ⟨r, hr, ?_⟩
  have hcomes : prioritize (uniqueIds r.issues) = prioritize (uniqueIds issues) := by
    rw [hdescribes.settled, build_issues hr]
  rw [build_congr (hdescribes.placed hissues) hissues hcomes]
  exact hr

/-- Issues that are renamed and put in order by the first report are left alone by the second. -/
theorem build_again_clash :
    let u : SourceUnit := ⟨"a.js", "x", .javascript, .bytes 1⟩
    let i : Issue := ⟨"x", .security, .low, "", "", "a.js", none, "", "", .low⟩
    let issues := [i, i, { i with id := "x-2", severity := .high }, { i with file := "project" }]
    [u] ≠ [] ∧ (∀ i ∈ issues, i.Placed [u]) ∧ "T" ≠ "" ∧
      ∃ r, build [u] issues (timestampOr "now" (some "T")) = .ok r ∧
        build [u] r.issues (timestampOr "later" (some "T")) = .ok r ∧
        r.issues.map (·.id) = ["x-2", "x", "x-3", "x-4"] := by
  intro u i issues
  have hunits : [u] ≠ [] := by simp
  have hissues : ∀ i ∈ issues, i.Placed [u] := by
    simp [issues, Issue.Placed, i, u, projectFile]
  have htime : "T" ≠ "" := by decide
  obtain ⟨r, hr, hagain⟩ := build_again hunits hissues htime "now" "later"
  refine ⟨hunits, hissues, htime, r, hr, hagain, ?_⟩
  have hrenamed : uniqueIds issues = [i, { i with id := "x-3" },
      { i with id := "x-2", severity := .high }, { i with id := "x-4", file := "project" }] := by
    decide
  rw [build_issues hr, hrenamed, prioritize]
  simp [List.mergeSort, List.MergeSort.Internal.splitInTwo, List.splitAt, List.splitAt.go,
    Issue.precedes, Severity.rank, i]

end Report

end Assay
