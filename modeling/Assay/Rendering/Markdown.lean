import Assay.Report.Basic

/-!
# Reports in Markdown

`Report.markdown` writes a report as a Markdown document: a summary, the metrics with a verdict on
each, the first issues of every kind, the recommendations and a table of all issues.
-/

namespace Assay

/-- The picture that stands for a kind of issue. -/
def IssueKind.icon : IssueKind → String
  | .security => "🔒"
  | .performance => "⚡"
  | .complexity => "🔧"
  | .duplication => "📋"
  | .testing => "🧪"
  | .documentation => "📚"
  | .maintainability => "🛠️"

/-- The verdict on a metric. -/
def metricStatus (value : Int) (lowerIsBetter : Bool) : String :=
  if lowerIsBetter then
    if value ≤ 4 then "✅ Good" else if value ≤ 7 then "⚠️ Warning" else "❌ Poor"
  else if 70 ≤ value then "✅ Good" else if 30 ≤ value then "⚠️ Warning" else "❌ Poor"

namespace Markdown

/-- How many issues of a kind are described. -/
def issuesPerKind : Nat := 5

/-- The cells of a row of a table. -/
def row (cells : List String) : String :=
  "| " ++ Text.join " | " cells ++ " |"

def summaryLines (r : Report) : List String :=
  let s := r.summary
  ["# 🔍 Code Quality Report", "", s!"**Generated:** {r.timestamp}", "", "## 📊 Summary", "",
   row ["Metric", "Value"], "|--------|-------|",
   row ["Files Analyzed", toString s.totalFiles],
   row ["Total Lines", Text.grouped s.totalLines],
   row ["Languages", Text.join ", " s.languages],
   row ["Issues Found", toString s.issueCount], ""]

def breakdownLines (s : Summary) : List String :=
  ["## ⚠️ Issue Severity Breakdown", "", row ["Severity", "Count"], "|----------|-------|",
   row ["🔴 Critical", toString (s.count "critical")],
   row ["🟠 High", toString (s.count "high")],
   row ["🟡 Medium", toString (s.count "medium")],
   row ["🟢 Low", toString (s.count "low")], ""]

def metricLines (m : Metrics) : List String :=
  ["## 📈 Quality Metrics", "", row ["Metric", "Score", "Status"], "|--------|-------|--------|",
   row ["Code Complexity", s!"{m.codeComplexity}/10", metricStatus m.codeComplexity true],
   row ["Test Coverage", s!"{m.testCoverage}%", metricStatus m.testCoverage false],
   row ["Code Duplication", s!"{m.duplicationPercentage}%",
     metricStatus m.duplicationPercentage true],
   row ["Maintainability Index", s!"{m.maintainabilityIndex}/100",
     metricStatus m.maintainabilityIndex false], ""]

/-- An issue in full. -/
def issueLines (i : Issue) : List String :=
  let place :=
    match i.shownLine with
    | some n => s!"`{i.file}` (Line {n})"
    | none => s!"`{i.file}`"
  [s!"**{i.title}** ({i.severity.name})", s!"- **File:** {place}",
   s!"- **Description:** {i.description}", s!"- **Suggestion:** {i.suggestion}",
   s!"- **Impact:** {i.impact}", s!"- **Effort:** {i.effort.name}", ""]

/-- The kinds of the issues, in the order in which they first come. -/
def kindsOf (issues : List Issue) : List IssueKind :=
  (issues.map (·.kind)).eraseDups

/-- The first issues of a kind. -/
def kindLines (r : Report) (k : IssueKind) : List String :=
  let issues := r.ofKind k
  [s!"### {k.icon} {Text.capitalized k.name} ({issues.length})", ""] ++
    (issues.take issuesPerKind).flatMap issueLines ++
    if issuesPerKind < issues.length then
      [s!"*... and {issues.length - issuesPerKind} more {k.name} issues*", ""]
    else []

def kindSections (r : Report) : List String :=
  match kindsOf r.issues with
  | [] => []
  | kinds => ["## 🔍 Issues by Category", ""] ++ kinds.flatMap (kindLines r)

def recommendationLines (r : Report) : List String :=
  match r.recommendations with
  | [] => []
  | rs => ["## 💡 Recommendations", ""] ++ rs.map ("- " ++ ·) ++ [""]

/-- The row of the `n`-th issue. -/
def issueRow (i : Issue) (n : Nat) : String :=
  let line :=
    match i.shownLine with
    | some l => toString l
    | none => "-"
  row [toString n, s!"{i.kind.icon} {i.kind.name}", i.severity.name, i.title, s!"`{i.file}`", line]

/-- The header of the table of issues. -/
def tableHeader : List String :=
  [row ["Priority", "Type", "Severity", "Title", "File", "Line"],
   "|----------|------|----------|-------|------|------|"]

def issueTable (r : Report) : List String :=
  match r.issues with
  | [] => []
  | issues =>
    ["## 📋 All Issues", ""] ++ tableHeader ++ (issues.zipIdx 1).map (fun (i, n) => issueRow i n) ++
      [""]

end Markdown

open Markdown in
/-- A report as a Markdown document. -/
def Report.markdown (r : Report) : String :=
  Text.join "\n" (summaryLines r ++ breakdownLines r.summary ++ metricLines r.metrics ++
    kindSections r ++ recommendationLines r ++ issueTable r)

end Assay
