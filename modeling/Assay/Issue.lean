import Assay.SourceUnit

/-!
# Issues

An issue is one finding of an analysis.

* `IssueKind`, `Severity`, `Effort`: the closed vocabularies, with the orders that reports sort by;
* `Issue`: the record;
* `Issue.toJson`, `Issue.ofJson`: its written form, which reading gives back. Fields are read in a
  fixed order, and the first one that is missing or invalid is the one reported.
-/

namespace Assay

/-- What an issue is about. -/
inductive IssueKind where
  | security | performance | complexity | duplication | testing | documentation | maintainability
  deriving DecidableEq, Repr

namespace IssueKind

def all : List IssueKind :=
  [security, performance, complexity, duplication, testing, documentation, maintainability]

def name : IssueKind → String
  | security => "security"
  | performance => "performance"
  | complexity => "complexity"
  | duplication => "duplication"
  | testing => "testing"
  | documentation => "documentation"
  | maintainability => "maintainability"

def ofName? (s : String) : Option IssueKind :=
  all.find? fun k => k.name == s

/-- The order among issues of one severity: the greater comes first. -/
def priority : IssueKind → Nat
  | security => 4
  | performance => 3
  | complexity => 2
  | testing => 1
  | _ => 0

end IssueKind

/-- How bad an issue is. -/
inductive Severity where
  | critical | high | medium | low
  deriving DecidableEq, Repr

namespace Severity

def all : List Severity :=
  [critical, high, medium, low]

def name : Severity → String
  | critical => "critical"
  | high => "high"
  | medium => "medium"
  | low => "low"

def ofName? (s : String) : Option Severity :=
  all.find? fun v => v.name == s

/-- The order of severities: the greater comes first. -/
def rank : Severity → Nat
  | critical => 4
  | high => 3
  | medium => 2
  | low => 1

/-- The name in capitals. -/
def label (v : Severity) : String :=
  String.ofList (v.name.toList.map Char.toUpper)

end Severity

/-- How much work a remedy takes. -/
inductive Effort where
  | low | medium | high
  deriving DecidableEq, Repr

namespace Effort

def all : List Effort :=
  [low, medium, high]

def name : Effort → String
  | low => "low"
  | medium => "medium"
  | high => "high"

def ofName? (s : String) : Option Effort :=
  all.find? fun e => e.name == s

end Effort

/-- The file of an issue that concerns the whole project. -/
def projectFile : String := "project"

/-- One finding. -/
structure Issue where
  id : String
  kind : IssueKind
  severity : Severity
  title : String
  description : String
  file : String
  line : Option Int
  suggestion : String
  impact : String
  effort : Effort
  deriving DecidableEq, Repr

namespace Issue

/-- The line, unless it is zero, which stands for none. -/
def shownLine (i : Issue) : Option Int :=
  i.line.filter (· != 0)

/-- The file, and the line if there is one. -/
def location (i : Issue) : String :=
  match i.shownLine with
  | some n => s!"{i.file}:{n}"
  | none => i.file

/-- The fields of an issue. -/
def toJson (i : Issue) : Json :=
  .obj [("id", .str i.id), ("type", .str i.kind.name), ("severity", .str i.severity.name),
    ("title", .str i.title), ("description", .str i.description), ("file", .str i.file),
    ("line", .ofInt? i.line), ("suggestion", .str i.suggestion), ("impact", .str i.impact),
    ("effort", .str i.effort.name)]

/-- A field that must be there. -/
def required (j : Json) (key : String) : Except Failure Json :=
  match j.field? key with
  | some v => .ok v
  | none => .error (.missingField key)

/-- A field that must be a text. -/
def requiredText (j : Json) (key : String) : Except Failure String := do
  let v ← required j key
  match v with
  | .str s => return s
  | v => throw (.notMember v.shown "text")

/-- A field that must name a member of a vocabulary. -/
def requiredMember {α : Type} (j : Json) (key kind : String) (ofName? : String → Option α) :
    Except Failure α := do
  let v ← required j key
  match v.asString?.bind ofName? with
  | some a => return a
  | none => throw (.notMember v.shown kind)

/-- Reads an issue from its fields. -/
def ofJson (j : Json) : Except Failure Issue := do
  let id ← requiredText j "id"
  let kind ← requiredMember j "type" "IssueType" IssueKind.ofName?
  let severity ← requiredMember j "severity" "Severity" Severity.ofName?
  let title ← requiredText j "title"
  let description ← requiredText j "description"
  let file ← requiredText j "file"
  let suggestion ← requiredText j "suggestion"
  let impact ← requiredText j "impact"
  let effort ← requiredMember j "effort" "Effort" Effort.ofName?
  return { id, kind, severity, title, description, file, line := (j.field "line").asInt?,
           suggestion, impact, effort }

end Issue

end Assay
