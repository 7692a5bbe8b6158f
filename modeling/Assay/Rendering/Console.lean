import Assay.Report.Measure

/-!
# Reports on the console

* `Report.summaryText`: what an analysis came to, in a few lines;
* `Report.consoleLines`: the summary, the first issues and the recommendations.
-/

namespace Assay

/-- A report in a few lines. -/
def Report.summaryText (r : Report) : Except Failure String := do
  let s := r.summary
  let critical := s.count "critical"
  let high := s.count "high"
  let score ← r.score
  return Text.join "\n" (
    ["📊 Analysis Summary:", s!"• {s.totalFiles} files analyzed",
     s!"• {Text.grouped s.totalLines} lines of code", s!"• {s.issueCount} issues found",
     s!"• {s.languages.length} programming languages"] ++
    (if critical = 0 then [] else [s!"🚨 {critical} critical issues require immediate attention"]) ++
    (if high = 0 then [] else [s!"⚠️ {high} high-priority issues found"]) ++
    [s!"📈 Overall Quality Score: {score}/100"])

/-- The sign of a severity. -/
def Severity.icon : Severity → String
  | .critical => "🔴"
  | .high => "🟠"
  | .medium => "🟡"
  | .low => "🟢"

/-- An issue in one line: its severity, its title and where it is. -/
def Issue.headline (i : Issue) : String :=
  s!"[{i.severity.label}] {i.title} @ {i.location}"

/-- How many issues the console shows. -/
def consoleIssues : Nat := 10

/-- The lines about the first issues. -/
def topIssueLines (issues : List Issue) : List String :=
  if issues.isEmpty then []
  else
    ["", "Top issues:"] ++
    (issues.take consoleIssues).map (fun i => s!"  {i.severity.icon} {i.headline}") ++
    (if consoleIssues < issues.length then [s!"  ... and {issues.length - consoleIssues} more"]
      else [])

/-- A report as lines on the console. -/
def Report.consoleLines (r : Report) : Except Failure (List String) := do
  let summary ← r.summaryText
  return [summary] ++ topIssueLines r.issues ++ ["", "Recommendations:"] ++
    r.recommendations.map ("  " ++ ·)

end Assay
