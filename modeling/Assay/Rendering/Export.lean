import Assay.Json.Printer
import Assay.Path
import Assay.Rendering.Markdown
import Assay.Rendering.Sarif

/-!
# Exporting reports

* `ExportFormat`: the formats a report can be exported in;
* `ExportFormat.select`: the formats that a name stands for;
* `Report.exports`: the files of an export, by path, in the order in which they are written.
-/

namespace Assay

/-- A format for files. -/
inductive ExportFormat where
  | markdown | json | sarif
  deriving DecidableEq, Repr

namespace ExportFormat

/-- Every format, in the order in which they are written. -/
def all : List ExportFormat :=
  [markdown, json, sarif]

def name : ExportFormat → String
  | markdown => "markdown"
  | json => "json"
  | sarif => "sarif"

def extension : ExportFormat → String
  | markdown => ".md"
  | json => ".json"
  | sarif => ".sarif"

/-- The names that may be asked for: those of the formats, and one for all of them. -/
def choices : List String :=
  all.map name ++ ["all"]

/-- The formats that a name stands for. -/
def select (choice : String) : Except Failure (List ExportFormat) :=
  if choice == "all" then .ok all
  else
    match all.find? fun f => f.name == choice with
    | some f => .ok [f]
    | none => .error (.unknownFormat choice choices)

/-- A report in a format. -/
def render (r : Report) : ExportFormat → String
  | markdown => r.markdown
  | json => r.toJson.pretty
  | sarif => r.sarif.prettyAscii

end ExportFormat

/-- The files of an export: their paths below `dir`, all with the name `base`, and their texts. -/
def Report.exports (r : Report) (dir base : String) (formats : List ExportFormat) :
    List (String × String) :=
  formats.map fun f => (Path.child dir (base ++ f.extension), f.render r)

end Assay
