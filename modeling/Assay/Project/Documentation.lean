import Assay.Detection.Functions
import Assay.Issue
import Assay.Project.Coverage

/-!
# Documentation

A declaration is documented when a mark of documentation stands on one of the three lines above it.
A project should also have a read-me file, whether or not that file is analysed.

* `undocumented`: the declarations of a file without documentation;
* `Documentation.issues`: one issue for every file that has such, after the one about the project.
-/

namespace Assay

/-- The texts that mark documentation. -/
def documentationMarks : List String :=
  ["/**", "\x22\x22\x22", "'''", "///", "#'"]

/-- A line that documents what follows. -/
def isDocumentation (line : List Char) : Bool :=
  documentationMarks.any fun mark => Text.occursIn mark.toList line

/-- How far above a declaration its documentation may stand. -/
def documentationReach : Nat := 3

/-- The indices of undocumented declarations from one line on; `above` are the lines before it, the
nearest first. -/
def undocumentedFrom (above : List (List Char)) (n : Nat) : List (List Char) → List Nat
  | [] => []
  | line :: rest =>
    (if declaration.occursIn line && !(above.take documentationReach).any isDocumentation then [n]
     else []) ++ undocumentedFrom (line :: above) (n + 1) rest

/-- The indices of the undocumented declarations of a file, from zero. -/
def undocumented (lines : List (List Char)) : List Nat :=
  undocumentedFrom [] 0 lines

namespace Documentation

def noReadmeIssue : Issue where
  id := "no-readme"
  kind := .documentation
  severity := .medium
  title := "Missing README"
  description := "No README file found in the project."
  file := projectFile
  line := none
  suggestion := "Add a README.md file with project description, setup instructions, " ++
    "and usage examples."
  impact := "Makes it difficult for new developers to understand and contribute to the project."
  effort := .low

/-- The issue about the undocumented declarations of a file, the first of which has index `n`. -/
def fileIssue (path : String) (count n : Nat) : Issue where
  id := s!"undocumented-functions:{path}"
  kind := .documentation
  severity := .low
  title := "Undocumented Functions"
  description := s!"{count} functions lack documentation in {path}."
  file := path
  line := some (n + 1 : Nat)
  suggestion := "Add JSDoc comments or docstrings to explain function purpose, parameters, " ++
    "and return values."
  impact := "Makes code harder to understand and maintain."
  effort := .low

/-- The issue about a file, if it has undocumented declarations. -/
def ofUnit (u : SourceUnit) : List Issue :=
  match undocumented u.lines with
  | [] => []
  | n :: ns => [fileIssue u.path (n :: ns).length n]

/-- Whether some path is that of a read-me file. -/
def hasReadme (paths : List String) : Bool :=
  paths.any fun p => pathMentions p "readme"

/-- The issues about the documentation of a project; `otherPaths` are files not analysed. -/
def issues (units : List SourceUnit) (otherPaths : List String) : List Issue :=
  (if hasReadme (units.map (·.path) ++ otherPaths) then [] else [noReadmeIssue]) ++
    units.flatMap ofUnit

end Documentation

end Assay
