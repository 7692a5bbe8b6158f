import Assay.Report.Measure
import Assay.Report.Priority

/-!
# Making a report

`Report.build` makes a report of the issues found in a set of files. There must be files, and every
issue must be about one of them or about the project.
-/

namespace Assay

/-- How many issues there are of each severity, the least severe first. -/
def breakdownOf (issues : List Issue) : List (String × Int) :=
  [Severity.low, .medium, .high, .critical].map fun v =>
    (v.name, ((issues.countP fun i => i.severity == v : Nat) : Int))

/-- Whether an issue is about the project or one of its files. -/
def Issue.isAbout (i : Issue) (paths : List String) : Bool :=
  i.file == projectFile || paths.contains i.file

/-- The summary of the issues found in some files. -/
def Summary.ofIssues (units : List SourceUnit) (issues : List Issue) : Summary where
  totalFiles := units.length
  totalLines := SourceUnit.totalLines units
  languages := (SourceUnit.languageCounts units).map fun (l, _) => l.name
  issueCount := issues.length
  breakdown := breakdownOf issues

/-- A time that was given, or else the present. -/
def timestampOr (now : String) (given : Option String) : String :=
  match given with
  | some t => if t.isEmpty then now else t
  | none => now

/-- The report of the issues found in some files. -/
def Report.build (units : List SourceUnit) (issues : List Issue) (timestamp : String) :
    Except Failure Report :=
  if units.isEmpty then .error .emptyInput
  else
    match issues.find? fun i => !i.isAbout (units.map (·.path)) with
    | some i => .error (.foreignFile i.id i.file)
    | none => do
      let ordered := prioritize (uniqueIds issues)
      let metrics ← Metrics.ofIssues units.length ordered
      return {
        summary := .ofIssues units ordered
        issues := ordered
        metrics
        recommendations := recommendationsFor ordered
        timestamp }

end Assay
