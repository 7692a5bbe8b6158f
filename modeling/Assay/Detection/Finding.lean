import Assay.Issue

/-!
# Findings

A finding is what a detector has to say about one line. Findings become issues when they are
numbered: the number makes the ids of one run over one file different from each other.
-/

namespace Assay

/-- What can be said about a line. -/
structure Remark where
  key : String
  severity : Severity
  title : String
  description : String
  suggestion : String
  impact : String
  effort : Effort
  deriving DecidableEq, Repr

/-- A remark about a line, which counts from one. -/
structure Finding where
  remark : Remark
  line : Nat
  deriving DecidableEq, Repr

namespace Finding

/-- The `n`-th finding of a detector in a file. -/
def toIssue (kind : IssueKind) (path : String) (f : Finding) (n : Nat) : Issue where
  id := s!"{f.remark.key}:{path}:{f.line}:{n}"
  kind := kind
  severity := f.remark.severity
  title := f.remark.title
  description := f.remark.description
  file := path
  line := some f.line
  suggestion := f.remark.suggestion
  impact := f.remark.impact
  effort := f.remark.effort

/-- The findings of a detector in a file, numbered from zero. -/
def toIssues (kind : IssueKind) (path : String) (fs : List Finding) : List Issue :=
  fs.zipIdx.map fun (f, n) => f.toIssue kind path n

end Finding

end Assay
