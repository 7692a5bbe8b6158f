import Assay.Proofs.Detection.Place
import Assay.Proofs.Report.Contract
import Assay.Proofs.Review.Batches

/-!
# The stages of an analysis

An analysis that is not called off gathers the issues of its stages and makes its report of them.

* `Analysis.Readable`: a model, if there is one, whose replies can all be read;
* `Reviewed`: what a review adds;
* `Analysis.gather`, `Analysis.issues_gathered`: the issues of all stages;
* `Issue.Located`: an issue about the project as a whole or about a file at hand, as they all are;
* `Analysis.run_describes`: the report describes the issues of all stages;
* `Analysis.run_located`: every run has a report.
-/

namespace Assay

namespace Analysis

/-- A model, if there is one, whose replies to the batches of some files can all be read. -/
def Readable (provider : Option Provider) (units : List SourceUnit) : Prop :=
  ∀ p ∈ provider, ∀ k, 3 * k < units.length → ¬ Review.StopsBatch (p.reply k)

theorem readable_none (units : List SourceUnit) : Readable none units :=
  nofun

/-- The issues of all stages: what some of the files have by themselves, what a review adds, and
what holds of the project. -/
def gather (units analysed : List SourceUnit) (reviewed : List Issue) (otherPaths : List String) :
    List Issue :=
  (analysed.flatMap fun u => (UnitResult.ofUnit u).issues) ++ reviewed ++
    projectIssues units otherPaths

end Analysis

/-- What a review of some files adds: issues about these files, numbered through. -/
structure Reviewed (stamp : Nat) (units : List SourceUnit) (issues : List Issue) : Prop where
  file_mem : ∀ i ∈ issues, i.file ∈ units.map (·.path)
  ids : issues.map (·.id) = (List.range issues.length).map (Review.issueId stamp)

namespace Analysis

variable {provider : Option Provider} {units : List SourceUnit}

/-! ## The stages -/

theorem reviewIssues_reviewed (clock : Clock) (rounds : List Parallel.Round)
    (h : Readable provider units) :
    ∃ reviewed, Reviewed clock.stamp units reviewed ∧
      (reviewIssues ⟨clock, provider, false, rounds⟩ units).outcome = .ok reviewed := by
  cases provider with
  | none => exact ⟨[], ⟨by simp, rfl⟩, rfl⟩
  | some p =>
    obtain ⟨rs, _, haccounts, hissues⟩ := Review.reviewAll_ends clock.stamp (h p rfl)
    refine ⟨rs.flatMap (·.issues), ⟨haccounts.file_mem, haccounts.ids⟩, ?_⟩
    rw [reviewIssues, Option.isSome_some, if_pos rfl, hissues]

/-- The issues of all stages, of the files whose analyses have ended. -/
theorem issues_gathered (clock : Clock) (ended : List (List Nat)) (otherPaths : List String)
    (h : Readable provider units) :
    ∃ reviewed, Reviewed clock.stamp units reviewed ∧
      (issues ⟨clock, provider, false, ended.map .ended⟩ units otherPaths).outcome =
        .ok (gather units (Parallel.atIndices units ended.flatten) reviewed otherPaths) := by
  obtain ⟨reviewed, hspec, hreviewed⟩ := reviewIssues_reviewed clock (ended.map .ended) h
  refine ⟨reviewed, hspec, ?_⟩
  simp only [issues, Trail.outcome_bind, Trail.outcome_debug, Trail.outcome_pure,
    Review.unitIssues_ended, hreviewed, ok_bind, gather]

/-- The report is made of the issues of all stages. -/
theorem run_eq_build {a : Analysis} {otherPaths : List String} {gathered : List Issue}
    (ha : a.cancelled = false) (h : (a.issues units otherPaths).outcome = .ok gathered) :
    (a.run units otherPaths).outcome = Report.build units gathered a.clock.timestamp := by
  simp only [run, checkCancelled, ha, Bool.false_eq_true, if_false, Trail.outcome_bind,
    Trail.outcome_pure, Trail.outcome_info, Trail.outcome_ofExcept, h, ok_bind, bind_ok]

end Analysis

/-! ## Where issues are -/

/-- An issue about the project as a whole, which has no line, or about one of some files. -/
def Issue.Located (units : List SourceUnit) (i : Issue) : Prop :=
  (i.file = projectFile ∧ i.line = none) ∨ ∃ u ∈ units, u.path = i.file

theorem Issue.Located.placed {units : List SourceUnit} {i : Issue} (h : i.Located units) :
    i.Placed units := by
  rcases h with ⟨hfile, _⟩ | hunit
  · exact Or.inl hfile
  · exact Or.inr hunit

theorem Issue.Located.of_same {units : List SourceUnit} {i j : Issue} (h : i.Located units)
    (hsame : i.SameButId j) : j.Located units := by
  rw [hsame]
  exact h

theorem Issue.Within.located {units : List SourceUnit} {u : SourceUnit} {i : Issue}
    (h : i.Within u) (hu : u ∈ units) : i.Located units :=
  Or.inr ⟨u, hu, h.1.symm⟩

theorem Reviewed.located {stamp : Nat} {units : List SourceUnit} {issues : List Issue}
    (h : Reviewed stamp units issues) {i : Issue} (hi : i ∈ issues) : i.Located units :=
  Or.inr (List.mem_map.mp (h.file_mem i hi))

/-- What is found in a file by itself stands on one of its lines. -/
theorem UnitResult.issues_within {u : SourceUnit} {i : Issue} (h : i ∈ (ofUnit u).issues) :
    i.Within u := by
  rcases List.mem_append.mp h with h | h
  · obtain ⟨d, _, hd⟩ := List.mem_flatMap.mp h
    exact Detector.issues_within hd
  · exact DuplicateBlock.issues_within h

theorem Coverage.issues_located {units : List SourceUnit} {i : Issue} (h : i ∈ issues units) :
    i.Located units := by
  unfold issues Verdict.issues at h
  split at h
  · rw [List.mem_singleton.mp h]
    exact Or.inl ⟨rfl, rfl⟩
  · rw [List.mem_singleton.mp h]
    exact Or.inl ⟨rfl, rfl⟩
  · simp at h

/-- An issue about documentation is the one about the project, or stands on a line of a file. -/
theorem Documentation.issues_within {units : List SourceUnit} {otherPaths : List String}
    {i : Issue} (h : i ∈ issues units otherPaths) :
    i = noReadmeIssue ∨ ∃ u ∈ units, i ∈ ofUnit u ∧ i.Within u := by
  rcases List.mem_append.mp h with h | h
  · split at h
    · simp at h
    · exact Or.inl (List.mem_singleton.mp h)
  · obtain ⟨u, hu, hi⟩ := List.mem_flatMap.mp h
    exact Or.inr ⟨u, hu, hi, ofUnit_within hi⟩

theorem Documentation.issues_located {units : List SourceUnit} {otherPaths : List String}
    {i : Issue} (h : i ∈ issues units otherPaths) : i.Located units := by
  rcases issues_within h with rfl | ⟨u, hu, _, hi⟩
  · exact Or.inl ⟨rfl, rfl⟩
  · exact hi.located hu

theorem Analysis.gather_located {units analysed : List SourceUnit} {reviewed : List Issue}
    {stamp : Nat} {otherPaths : List String} (hanalysed : analysed.Sublist units)
    (hreviewed : Reviewed stamp units reviewed) {i : Issue}
    (hi : i ∈ gather units analysed reviewed otherPaths) : i.Located units := by
  rcases List.mem_append.mp hi with hi | hi
  · rcases List.mem_append.mp hi with hi | hi
    · obtain ⟨u, hu, hi⟩ := List.mem_flatMap.mp hi
      exact (UnitResult.issues_within hi).located (hanalysed.subset hu)
    · exact hreviewed.located hi
  · rcases List.mem_append.mp hi with hi | hi
    · exact Coverage.issues_located hi
    · exact Documentation.issues_located hi

/-! ## The report -/

namespace Analysis

variable {provider : Option Provider} {units : List SourceUnit}

/-- The issues of all stages make a report. -/
theorem run_describes {a : Analysis} {analysed : List SourceUnit} {reviewed : List Issue}
    {stamp : Nat} {otherPaths : List String} (ha : a.cancelled = false) (hunits : units ≠ [])
    (hanalysed : analysed.Sublist units) (hreviewed : Reviewed stamp units reviewed)
    (h : (a.issues units otherPaths).outcome = .ok (gather units analysed reviewed otherPaths)) :
    ∃ r, (a.run units otherPaths).outcome = .ok r ∧
      r.Describes units (gather units analysed reviewed otherPaths) := by
  rw [run_eq_build ha h]
  exact Report.build_ok a.clock.timestamp hunits fun i hi =>
    (gather_located hanalysed hreviewed hi).placed

/-- If there are files, a run that is not called off ends in a report about them. -/
theorem run_ends (clock : Clock) (ended : List (List Nat)) (otherPaths : List String)
    (hunits : units ≠ []) (h : Readable provider units) :
    ∃ r issues, (run ⟨clock, provider, false, ended.map .ended⟩ units otherPaths).outcome = .ok r ∧
      r.Describes units issues := by
  obtain ⟨reviewed, hreviewed, hissues⟩ := issues_gathered clock ended otherPaths h
  have hanalysed := Parallel.atIndices_sublist units ended.flatten
  obtain ⟨r, hr, hdescribes⟩ := run_describes rfl hunits hanalysed hreviewed hissues
  exact ⟨r, _, hr, hdescribes⟩

/-- **Every analysis has a report.** If there are files, a run that is not called off ends in a
report, whether or not there is a model and whatever calls to it fail, as long as its replies can be
read. Every issue is about the project as a whole, and then has no line, or about one of the files;
what a file has by itself, and what it lacks in documentation, stands on one of its lines. -/
theorem run_located (clock : Clock) (ended : List (List Nat)) (otherPaths : List String)
    (hunits : units ≠ []) (h : Readable provider units) :
    ∃ r, (run ⟨clock, provider, false, ended.map .ended⟩ units otherPaths).outcome = .ok r ∧
      (∀ i ∈ r.issues, i.Located units) ∧
      (∀ u, ∀ i ∈ (UnitResult.ofUnit u).issues, i.Within u) ∧
      ∀ i ∈ Documentation.issues units otherPaths,
        i = Documentation.noReadmeIssue ∨
          ∃ u ∈ units, i ∈ Documentation.ofUnit u ∧ i.Within u := by
  obtain ⟨reviewed, hreviewed, hissues⟩ := issues_gathered clock ended otherPaths h
  have hanalysed := Parallel.atIndices_sublist units ended.flatten
  obtain ⟨r, hr, hdescribes⟩ := run_describes rfl hunits hanalysed hreviewed hissues
  refine ⟨r, hr, fun j hj => ?_, fun u i => UnitResult.issues_within,
    fun i => Documentation.issues_within⟩
  obtain ⟨i, hi, hsame⟩ := hdescribes.exists_same hj
  exact (gather_located hanalysed hreviewed hi).of_same hsame

/-- Two files, of which the second ends first, and a model whose calls all fail. -/
theorem run_located_crash :
    let p : Provider := ⟨"m", "m", fun _ => .crash "Timeout" "late"⟩
    let units := [SourceUnit.mk "a.js" "eval(x)" .javascript (.bytes 7),
      SourceUnit.mk "b.js" "f()\neval(x)" .javascript (.bytes 11)]
    units ≠ [] ∧ Readable (some p) units ∧
      (∃ r, (run ⟨Clock.ofMillis 7, some p, false, [[1], [0]].map .ended⟩ units []).outcome =
        .ok r ∧ ∀ i ∈ r.issues, i.Located units) ∧
      (units.flatMap fun u => (UnitResult.ofUnit u).issues.map fun i => (i.file, i.line)) =
        [("a.js", some 1), ("b.js", some 2)] := by
  intro p units
  have h : Readable (some p) units := by
    rintro q hq k _ ⟨s, hs, _⟩
    obtain rfl := Option.mem_some_iff.mp hq
    cases hs
  obtain ⟨r, hr, hlocated, _⟩ :=
    run_located (Clock.ofMillis 7) [[1], [0]] [] (List.cons_ne_nil _ _ : units ≠ []) h
  exact ⟨List.cons_ne_nil _ _, h, ⟨r, hr, hlocated⟩, by decide +kernel⟩

end Analysis

end Assay
