import Assay.Issue

/-!
# Reports

A report is the result of one analysis: a summary, the issues in order of priority, four headline
metrics, recommendations and the time it was made.

* `Metrics`, `Summary`, `Report`: the records;
* `Report.toJson`: the written form, with its fields in a fixed order;
* `Report.ofKind`: the issues of one kind.
-/

namespace Assay

/-- The headline metrics. -/
structure Metrics where
  /-- From 0 to 10, the less the better. -/
  codeComplexity : Int
  /-- From 0 to 100. -/
  testCoverage : Int
  /-- From 0 to 50, the less the better. -/
  duplicationPercentage : Int
  /-- From 0 to 100. -/
  maintainabilityIndex : Int
  deriving DecidableEq, Repr

/-- What was analysed and what came of it, in numbers. -/
structure Summary where
  totalFiles : Int
  totalLines : Int
  /-- The names of the languages. -/
  languages : List String
  issueCount : Int
  /-- How many issues there are of each severity, in the order in which they are shown. -/
  breakdown : List (String × Int)
  deriving DecidableEq, Repr

/-- The result of one analysis. -/
structure Report where
  summary : Summary
  issues : List Issue
  metrics : Metrics
  recommendations : List String
  timestamp : String
  deriving DecidableEq, Repr

def Metrics.toJson (m : Metrics) : Json :=
  .obj [("code_complexity", .int m.codeComplexity), ("test_coverage", .int m.testCoverage),
    ("duplication_percentage", .int m.duplicationPercentage),
    ("maintainability_index", .int m.maintainabilityIndex)]

def Summary.toJson (s : Summary) : Json :=
  .obj [("total_files", .int s.totalFiles), ("total_lines", .int s.totalLines),
    ("languages", .strings s.languages), ("issue_count", .int s.issueCount),
    ("severity_breakdown", .obj (s.breakdown.map fun (name, n) => (name, .int n)))]

/-- How many issues have the severity of a name. -/
def Summary.count (s : Summary) (name : String) : Int :=
  (s.breakdown.lookup name).getD 0

namespace Report

def toJson (r : Report) : Json :=
  .obj [("summary", r.summary.toJson), ("issues", .arr (r.issues.map Issue.toJson)),
    ("metrics", r.metrics.toJson), ("recommendations", .strings r.recommendations),
    ("timestamp", .str r.timestamp)]

/-- The issues of one kind, in order. -/
def ofKind (r : Report) (k : IssueKind) : List Issue :=
  r.issues.filter fun i => i.kind == k

/-- Whether there is an issue of a kind. -/
def mentions (r : Report) (k : IssueKind) : Bool :=
  r.issues.any fun i => i.kind == k

end Report

end Assay
