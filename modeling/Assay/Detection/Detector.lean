import Assay.Detection.Complexity
import Assay.Detection.Performance
import Assay.Detection.Security

/-!
# Detectors

A detector looks for issues of one kind in one file. `Detector.all` lists the detectors in the
order in which they run; `detectIssues` runs them all.
-/

namespace Assay

/-- The detectors. -/
inductive Detector where
  | security | performance | complexity
  deriving DecidableEq, Repr

namespace Detector

/-- Every detector, in the order in which they run. -/
def all : List Detector :=
  [security, performance, complexity]

def name : Detector → String
  | security => "security"
  | performance => "performance"
  | complexity => "complexity"

/-- The detector of a name. -/
def ofName (s : String) : Except Failure Detector :=
  match all.find? fun d => d.name == s with
  | some d => .ok d
  | none => .error (.unknownDetector s)

/-- What the issues of a detector are about. -/
def kind : Detector → IssueKind
  | security => .security
  | performance => .performance
  | complexity => .complexity

/-- What a detector finds in a file. -/
def findings (d : Detector) (u : SourceUnit) : List Finding :=
  match d with
  | security => Rule.findingsOfAll Security.rules u.text
  | performance => Performance.nestedLoops u.text ++ Rule.findingsOfAll Performance.rules u.text
  | complexity =>
    (functionSpans u.language u.lines).flatMap Complexity.functionFindings ++
      Complexity.nestingFindings u.lines ++ Complexity.parameterFindings u.lines

/-- The issues that a detector finds in a file. -/
def issues (d : Detector) (u : SourceUnit) : List Issue :=
  Finding.toIssues d.kind u.path (d.findings u)

end Detector

/-- The issues that all detectors find in a file. -/
def detectIssues (u : SourceUnit) : List Issue :=
  Detector.all.flatMap fun d => d.issues u

end Assay
