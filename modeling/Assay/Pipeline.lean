import Assay.Clock
import Assay.Detection.Detector
import Assay.Parallel
import Assay.Project.Documentation
import Assay.Report.Build
import Assay.Review.Batch
import Assay.Structure.FileMetrics

/-!
# The analysis of a set of files

An analysis has stages in a fixed order: every file by itself, the review by a model, then the
project as a whole. The report is made at the end, so a run that is called off has none.

* `UnitResult.ofUnit`: one file by itself;
* `Analysis`: what a run is given besides the files;
* `Analysis.run`: the report of a set of files.
-/

namespace Assay

/-- What is found in one file by itself. -/
structure UnitResult where
  path : String
  issues : List Issue
  metrics : FileMetrics

/-- Detectors and metrics on one file. -/
def UnitResult.ofUnit (u : SourceUnit) : UnitResult :=
  let metrics := FileMetrics.ofUnit u
  { path := u.path
    issues := detectIssues u ++ DuplicateBlock.issues u.path metrics.duplicateBlocks
    metrics }

/-- What a run is given besides the files. -/
structure Analysis where
  clock : Clock
  /-- The model that reviews, if there is one. -/
  provider : Option Provider
  /-- Whether the run was called off before it began. -/
  cancelled : Bool
  /-- The rounds in which the analyses of single files end. -/
  rounds : List Parallel.Round

namespace Analysis

/-- The issues that files have by themselves. -/
def unitIssues (a : Analysis) (units : List SourceUnit) : Trail (List Issue) := do
  let results ← .ofExcept (Parallel.collect (fun u => .ok (UnitResult.ofUnit u)) units a.rounds)
  return results.flatMap fun r => (r.map (·.issues)).getD []

/-- The issues that a model finds. -/
def reviewIssues (a : Analysis) (units : List SourceUnit) : Trail (List Issue) :=
  if a.provider.isSome then Review.reviewIssues a.clock.stamp a.provider a.cancelled units
  else do
    Trail.info "No AI provider configured, skipping AI analysis"
    return []

/-- The issues of the project as a whole; `otherPaths` are files not analysed. -/
def projectIssues (units : List SourceUnit) (otherPaths : List String) : List Issue :=
  Coverage.issues units ++ Documentation.issues units otherPaths

/-- The issues of all stages, in their order. -/
def issues (a : Analysis) (units : List SourceUnit) (otherPaths : List String) :
    Trail (List Issue) := do
  let found ← a.unitIssues units
  Trail.debug s!"Static analysis found {found.length} issue(s)"
  let reviewed ← a.reviewIssues units
  return found ++ reviewed ++ projectIssues units otherPaths

/-- The report of a set of files. -/
def run (a : Analysis) (units : List SourceUnit) (otherPaths : List String) : Trail Report := do
  checkCancelled a.cancelled
  Trail.info s!"Analyzing {units.length} file(s)"
  let issues ← a.issues units otherPaths
  let report ← .ofExcept (Report.build units issues a.clock.timestamp)
  Trail.info s!"Analysis complete: {report.summary.issueCount} issue(s)"
  return report

end Analysis

end Assay
