import Assay.Binary64
import Assay.Report.Basic

/-!
# Headline metrics

The metrics are worked out in floats from the number of files and the issues.

* `Metrics.ofIssues`: the four metrics, each kept in its range; there is none without files;
* `qualityScore`: the score of a summary;
* `recommendationsFor`: what the kinds of issues present call for.
-/

namespace Assay

open Binary64

/-- Rounds a float, a half going up. -/
def roundHalfUp (q : Rat) : Int :=
  (nearest (q + 1 / 2)).floor

/-- An integer as a float. -/
def ofInteger (n : Int) : Rat :=
  nearest n

namespace Metrics

/-- The metrics of a project of `files` files, where `count` gives the number of issues of a kind
and `total` that of all. -/
def ofCounts (files : Int) (count : IssueKind → Nat) (total : Nat) : Metrics where
  codeComplexity := min 10 (roundHalfUp (divide (10 * count .complexity) files))
  testCoverage := max 0 (roundHalfUp (ofInteger (100 - 20 * count .testing)))
  duplicationPercentage := min 50 (roundHalfUp (ofInteger (5 * count .duplication)))
  maintainabilityIndex := max 0 (roundHalfUp (nearest (100 - divide (10 * total) files)))

/-- The metrics of a project of `files` files. -/
def ofIssues (files : Int) (issues : List Issue) : Except Failure Metrics :=
  if files = 0 then .error .divisionByZero
  else .ok (ofCounts files (fun k => issues.countP fun i => i.kind == k) issues.length)

end Metrics

/-- The score that a number of issues in a number of files deserves: ten points less for every issue
a file. No files count as one. -/
def qualityScore (files issues : Int) : Except Failure Int :=
  let files := if files = 0 then 1 else files
  match Binary64.round (mkRat issues 1 / mkRat files 1) with
  | none => .error .quotientTooLarge
  | some q =>
    match Binary64.round (q * 10) with
    | none => .error (.number .infinite)
    | some q => .ok (max 0 (truncate (nearest (nearest (100 - q) + 1 / 2))))

/-- The score of a report. -/
def Report.score (r : Report) : Except Failure Int :=
  qualityScore r.summary.totalFiles r.summary.issueCount

/-- The recommendation for each kind of issue, in the order in which they are given. -/
def recommendationTable : List (IssueKind × String) :=
  [(.security, "🔒 Address security vulnerabilities immediately - they pose the highest risk"),
   (.performance, "⚡ Optimize performance bottlenecks to improve user experience"),
   (.testing, "🧪 Increase test coverage to catch bugs early and enable safe refactoring"),
   (.complexity, "🔧 Refactor complex code to improve maintainability"),
   (.documentation,
     "📚 Improve documentation to help team members understand the codebase")]

/-- What the issues call for; there is always something to say. -/
def recommendationsFor (issues : List Issue) : List String :=
  match recommendationTable.filter fun (k, _) => issues.any fun i => i.kind == k with
  | [] => ["✅ Great job! Your code quality looks good overall"]
  | found => found.map (·.2)

end Assay
