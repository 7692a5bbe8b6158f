import Assay.Proofs.Analysis.Origin
import Assay.Proofs.Analysis.Stages

/-!
# Ids of all stages

Files, a review and the project as a whole each have ids of their own: only those of files have
colons, and only those of a review begin with its letters.

* `Origin.ofStatic`: where the issues of a file by itself come from;
* `Review.issueId_injective`: the ids of a review differ as their numbers do;
* `projectIds`: the ids of issues about the project as a whole;
* `Analysis.gathered_nodup`: the issues of all stages have different ids;
* `Analysis.run_ids`: so the report leaves them as they are.
-/

namespace Assay

/-! ## The ids of a stage -/

/-- Where the issues of a file by itself come from. -/
def Origin.ofStatic : List Origin :=
  [.detector .security, .detector .performance, .detector .complexity, .repetition]

theorem UnitResult.flatMap_issues (units : List SourceUnit) :
    (units.flatMap fun u => (ofUnit u).issues) = Origin.issuesOf Origin.ofStatic units := by
  simp [Origin.issuesOf, ofUnit, detectIssues, Detector.all, Origin.ofStatic, Origin.issues]

theorem Documentation.flatMap_ofUnit (units : List SourceUnit) :
    units.flatMap ofUnit = Origin.issuesOf [.documentation] units := by
  simp [Origin.issuesOf, Origin.issues]

namespace Review

theorem issueId_injective {stamp m n : Nat} (h : issueId stamp m = issueId stamp n) : m = n := by
  have hlist := congrArg String.toList h
  simp only [issueId, toString, String.toList_append, List.append_cancel_left_eq] at hlist
  exact toString_injective (String.toList_injective hlist)

theorem solid_issueId (stamp n : Nat) : Solid (issueId stamp n) := by
  have hstart : ':' ∉ "ai-".toList := by decide
  have hdash : ':' ∉ "-".toList := by decide
  simp only [issueId, toString, Solid, String.toList_append, List.mem_append, not_or]
  exact ⟨⟨⟨hstart, solid_repr stamp⟩, hdash⟩, solid_repr n⟩

theorem issueId_head (stamp n : Nat) : (issueId stamp n).toList.head? = some 'a' := by
  have hstart : "ai-".toList = ['a', 'i', '-'] := by decide
  simp only [issueId, toString, String.toList_append, hstart, List.append_assoc,
    List.cons_append, List.head?_cons]

theorem mem_issueIds {stamp : Nat} {numbers : List Nat} {id : String}
    (h : id ∈ numbers.map (issueId stamp)) : Solid id ∧ id.toList.head? = some 'a' := by
  obtain ⟨n, _, rfl⟩ := List.mem_map.mp h
  exact ⟨solid_issueId stamp n, issueId_head stamp n⟩

end Review

/-- The ids of issues about the project as a whole. -/
def projectIds : List String :=
  ["no-tests", "low-test-coverage", "no-readme"]

theorem projectIds_solid : ∀ id ∈ projectIds, Solid id := by
  decide

theorem projectIds_head : ∀ id ∈ projectIds, id.toList.head? ≠ some 'a' := by
  decide

/-! ## All stages -/

namespace Analysis

/-- The issues about the project as a whole come before those about the documentation of files. -/
theorem projectIssues_eq (units : List SourceUnit) (otherPaths : List String) :
    ∃ whole : List Issue, (whole.map (·.id)).Sublist projectIds ∧
      projectIssues units otherPaths = whole ++ units.flatMap Documentation.ofUnit := by
  have hcoverage : ((Coverage.issues units).map (·.id)).Sublist
      ["no-tests", "low-test-coverage"] := by
    unfold Coverage.issues Coverage.Verdict.issues
    split
    · exact List.singleton_sublist.mpr (by simp [Coverage.noTestsIssue])
    · exact List.singleton_sublist.mpr (by simp [Coverage.lowIssue])
    · exact List.nil_sublist _
  cases hreadme : Documentation.hasReadme (units.map (·.path) ++ otherPaths) with
  | true =>
    refine ⟨Coverage.issues units, hcoverage.trans (List.sublist_append_left _ ["no-readme"]), ?_⟩
    simp [projectIssues, Documentation.issues, hreadme]
  | false =>
    refine ⟨Coverage.issues units ++ [Documentation.noReadmeIssue], ?_, ?_⟩
    · rw [List.map_append]
      exact hcoverage.append (List.Sublist.refl ["no-readme"])
    · simp [projectIssues, Documentation.issues, hreadme]

/-- Issues of files with different paths, issues of a review with different numbers and issues
about the project have different ids, in whatever order the numbers are given out. -/
theorem gathered_nodup {units analysed : List SourceUnit} {reviewed : List Issue} {stamp : Nat}
    {numbers : List Nat} (otherPaths : List String) (hunits : (units.map (·.path)).Nodup)
    (hanalysed : analysed.Sublist units) (hnumbers : numbers.Nodup)
    (hreviewed : reviewed.map (·.id) = numbers.map (Review.issueId stamp)) :
    ((gather units analysed reviewed otherPaths).map (·.id)).Nodup := by
  obtain ⟨whole, hwhole, hproject⟩ := projectIssues_eq units otherPaths
  rw [gather, hproject, UnitResult.flatMap_issues, Documentation.flatMap_ofUnit]
  simp only [List.map_append, hreviewed]
  have hpaths := hunits.sublist (hanalysed.map (·.path))
  have hstatic : ((Origin.issuesOf Origin.ofStatic analysed).map (·.id)).Nodup :=
    Origin.issuesOf_nodup (by decide) hpaths
  have hdocumentation : ((Origin.issuesOf [.documentation] units).map (·.id)).Nodup :=
    Origin.issuesOf_nodup (by decide) hunits
  have hreview : (numbers.map (Review.issueId stamp)).Nodup :=
    hnumbers.map fun m n => Review.issueId_injective
  refine List.nodup_append.mpr ⟨List.nodup_append.mpr ⟨hstatic, hreview, ?_⟩,
    List.nodup_append.mpr ⟨hwhole.nodup (by decide), hdocumentation, ?_⟩, ?_⟩
  -- Only the ids of files have colons, and only those of a review begin with their letter.
  · rintro id hid _ hid' rfl
    exact Origin.issuesOf_not_solid hid (Review.mem_issueIds hid').1
  · rintro id hid _ hid' rfl
    exact Origin.issuesOf_not_solid hid' (projectIds_solid id (hwhole.subset hid))
  · rintro id hid _ hid' rfl
    rcases List.mem_append.mp hid with hid | hid
    · rcases List.mem_append.mp hid' with hid' | hid'
      · exact Origin.issuesOf_not_solid hid (projectIds_solid id (hwhole.subset hid'))
      · exact Origin.issuesOf_disjoint (by decide) hid hid'
    · obtain ⟨hsolid, hhead⟩ := Review.mem_issueIds hid
      rcases List.mem_append.mp hid' with hid' | hid'
      · exact projectIds_head id (hwhole.subset hid') hhead
      · exact Origin.issuesOf_not_solid hid' hsolid

/-- **No id is given twice.** If the paths of the files differ and a model, if there is one, gives
replies that can be read, the issues of all stages have different ids: whatever the paths hold,
however many of the files have been analysed, and in whatever order a review gives out its numbers.
So the ids are left as they are, and the report has the same issues in another order. -/
theorem run_ids {provider : Option Provider} {units : List SourceUnit} (clock : Clock)
    (ended : List (List Nat)) (otherPaths : List String) (hunits : (units.map (·.path)).Nodup)
    (h : Readable provider units) :
    ∃ analysed reviewed, analysed.Sublist units ∧
      ((∀ k < units.length, k ∈ ended.flatten) → analysed = units) ∧
      (issues ⟨clock, provider, false, ended.map .ended⟩ units otherPaths).outcome =
        .ok (gather units analysed reviewed otherPaths) ∧
      ((gather units analysed reviewed otherPaths).map (·.id)).Nodup ∧
      (∀ (renumbered : List Issue) (numbers : List Nat), numbers.Nodup →
        renumbered.map (·.id) = numbers.map (Review.issueId clock.stamp) →
        ((gather units analysed renumbered otherPaths).map (·.id)).Nodup) ∧
      uniqueIds (gather units analysed reviewed otherPaths) =
        gather units analysed reviewed otherPaths ∧
      (units ≠ [] → ∃ r,
        (run ⟨clock, provider, false, ended.map .ended⟩ units otherPaths).outcome = .ok r ∧
        r.issues.Perm (gather units analysed reviewed otherPaths)) := by
  obtain ⟨reviewed, hreviewed, hissues⟩ := issues_gathered clock ended otherPaths h
  have hanalysed := Parallel.atIndices_sublist units ended.flatten
  have hnodup := gathered_nodup otherPaths hunits hanalysed List.nodup_range hreviewed.ids
  refine ⟨Parallel.atIndices units ended.flatten, reviewed, hanalysed, Parallel.atIndices_eq_self,
    hissues, hnodup, fun renumbered numbers => gathered_nodup otherPaths hunits hanalysed,
    uniqueIds_eq_self hnodup, fun hne => ?_⟩
  obtain ⟨r, hr, hdescribes⟩ := run_describes rfl hne hanalysed hreviewed hissues
  refine ⟨r, hr, ?_⟩
  rw [← uniqueIds_eq_self hnodup]
  exact hdescribes.perm

/-- The path of one file is that of the other with a colon and a number. -/
theorem run_ids_colon :
    let p : Provider := ⟨"m", "m", fun _ => .text "[\x7b\x22line\x22: 2\x7d]"⟩
    let units := [SourceUnit.mk "a" "eval(x)\neval(x)" .javascript (.bytes 15),
      SourceUnit.mk "a:1" "eval(x)" .javascript (.bytes 7)]
    (units.map (·.path)).Nodup ∧ Readable (some p) units ∧
      ∃ r, (run ⟨Clock.ofMillis 7, some p, false, [[1], [0]].map .ended⟩ units []).outcome =
        .ok r ∧
      (r.issues.map (·.id)).Perm
        ["xss:a:1:0", "xss:a:2:1", "xss:a:1:1:0", "ai-7-0", "no-tests", "no-readme"] := by
  intro p units
  have h : Readable (some p) units := by
    rintro q hq k _ ⟨s, hs, hstops⟩
    obtain rfl := Option.mem_some_iff.mp hq
    obtain rfl := Reply.text.inj hs
    exact Review.not_derails_of_isOk (by decide +kernel) hstops
  have hnodup : (units.map (·.path)).Nodup := by decide
  obtain ⟨analysed, reviewed, _, _, hissues, _, _, _, hrun⟩ :=
    run_ids (Clock.ofMillis 7) [[1], [0]] [] hnodup h
  obtain ⟨r, hr, hperm⟩ := hrun (List.cons_ne_nil _ _)
  refine ⟨hnodup, h, r, hr, ?_⟩
  have hids : ((issues ⟨Clock.ofMillis 7, some p, false, [[1], [0]].map .ended⟩ units []).outcome
      |>.toOption.map fun is => is.map (·.id)) =
      some ["xss:a:1:0", "xss:a:2:1", "xss:a:1:1:0", "ai-7-0", "no-tests", "no-readme"] := by
    decide +kernel
  rw [hissues] at hids
  rw [← Option.some.inj hids]
  exact hperm.map (·.id)

end Analysis

end Assay
