import Assay.Report.Basic

/-!
# Reports in the static-analysis interchange format

`Report.sarif` writes a report as a SARIF document: one rule for every kind of issue present, in
the order of their names, and one result for every issue.
-/

namespace Assay

namespace Sarif

def schema : String :=
  "https://raw.githubusercontent.com/oasis-tcs/sarif-spec/master/Schemata/sarif-schema-2.1.0.json"

/-- The name of the tool in documents. -/
def toolName : String := "codeqa"

/-- The version of the tool. -/
def toolVersion : String := "0.3.0"

/-- The level of a severity. -/
def level : Severity → String
  | .critical | .high => "error"
  | .medium => "warning"
  | .low => "note"

/-- The rule that an issue of a kind breaks. -/
def ruleId (k : IssueKind) : String :=
  s!"{toolName}/{k.name}"

/-- An object whose only field is a text. -/
def textObject (s : String) : Json :=
  .obj [("text", .str s)]

def rule (k : IssueKind) : Json :=
  .obj [("id", .str (ruleId k)), ("name", .str (Text.capitalized k.name)),
    ("shortDescription", textObject s!"{Text.capitalized k.name} issue"),
    ("defaultConfiguration", .obj [("level", .str "warning")])]

/-- The kinds in the order of their names. -/
def kindsByName : List IssueKind :=
  [.complexity, .documentation, .duplication, .maintainability, .performance, .security, .testing]

/-- The kinds of the issues of a report, in the order of their names. -/
def kindsOf (r : Report) : List IssueKind :=
  kindsByName.filter r.mentions

/-- The title, and the description if there is one. -/
def messageOf (i : Issue) : String :=
  if i.description.isEmpty then i.title else s!"{i.title}: {i.description}"

/-- Where an issue is; an issue without a line has no region. -/
def locationOf (i : Issue) : Json :=
  .obj ([("artifactLocation",
      .obj [("uri", .str i.file), ("uriBaseId", .str "%SRCROOT%")])] ++
    match i.shownLine with
    | some n => [("region", .obj [("startLine", .int n)])]
    | none => [])

def result (i : Issue) : Json :=
  .obj ([("ruleId", .str (ruleId i.kind)), ("level", .str (level i.severity)),
    ("message", textObject (messageOf i)),
    ("locations", .arr [.obj [("physicalLocation", locationOf i)]]),
    ("fingerprints", .obj [("codeqaIssueId", .str i.id)]),
    ("properties", .obj [("severity", .str i.severity.name), ("effort", .str i.effort.name),
      ("impact", .str i.impact)])] ++
    if i.suggestion.isEmpty then []
    else [("fixes", .arr [.obj [("description", textObject i.suggestion)]])])

end Sarif

open Sarif in
/-- A report as a SARIF document. -/
def Report.sarif (r : Report) : Json :=
  .obj [("version", .str "2.1.0"), ("$schema", .str schema),
    ("runs", .arr [.obj [
      ("tool", .obj [("driver", .obj [("name", .str toolName), ("version", .str toolVersion),
        ("rules", .arr ((kindsOf r).map rule))])]),
      ("results", .arr (r.issues.map result)),
      ("properties", .obj [("metrics", r.metrics.toJson), ("timestamp", .str r.timestamp)])]])]

end Assay
