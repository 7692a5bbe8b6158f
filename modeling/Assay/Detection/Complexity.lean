import Assay.Detection.Finding
import Assay.Detection.Functions

/-!
# Complexity

What makes code hard to read: long functions, functions with many decisions, deep nesting and long
parameter lists. Each has two thresholds, one for a finding and one for a severe finding.

* `functionFindings`: about the functions of a file, as they end;
* `nesting`: the greatest depth in a file and the line that first reaches it;
* `parameters`: the parameters of a signature, without the markers that are none.
-/

namespace Assay.Complexity

open Pattern

/-- High above the second threshold and medium below. -/
def severityAbove (threshold n : Nat) : Severity :=
  if threshold < n then .high else .medium

def longRemark (name : String) (lineCount : Nat) : Remark where
  key := "long-function"
  severity := severityAbove 100 lineCount
  title := "Long Function"
  description := s!"Function '{name}' is {lineCount} lines long."
  suggestion := "Break down large functions into smaller, more focused functions."
  impact := "Long functions are harder to understand, test, and maintain."
  effort := .medium

def complexRemark (name : String) (complexity : Nat) : Remark where
  key := "high-complexity"
  severity := severityAbove 20 complexity
  title := "High Cyclomatic Complexity"
  description := s!"Function '{name}' has cyclomatic complexity of {complexity}."
  suggestion := "Reduce complexity by extracting methods, using early returns, " ++
    "or simplifying conditional logic."
  impact := "High complexity makes code harder to understand and test."
  effort := .high

/-- The findings about a function that has ended. -/
def functionFindings (f : FunctionSpan) : List Finding :=
  (if 50 < f.lineCount then [⟨longRemark f.name f.lineCount, f.start + 1⟩] else []) ++
    (if 10 < f.complexity then [⟨complexRemark f.name f.complexity, f.start + 1⟩] else [])

/-- A brace or a word that opens a level of nesting. -/
def nestingOpener : Pattern :=
  anyOf [lit "\x7b", wholeWord ["if"], wholeWord ["for"], wholeWord ["while"], wholeWord ["try"]]

/-- A line opens at most one level. -/
def opensLevel (line : List Char) : Bool :=
  nestingOpener.occursIn line

/-- A line closes at most one level. -/
def closesLevel (line : List Char) : Bool :=
  line.contains '\x7d'

/-- The depth at a line, and the greatest one so far with the index of its line. -/
structure Nesting where
  depth : Nat := 0
  deepest : Nat := 0
  line : Nat := 0
  deriving DecidableEq, Repr

namespace Nesting

/-- The `n`-th line may open a level. -/
def enter (s : Nesting) (n : Nat) (line : List Char) : Nesting :=
  if opensLevel line then
    if s.deepest < s.depth + 1 then ⟨s.depth + 1, s.depth + 1, n⟩
    else { s with depth := s.depth + 1 }
  else s

/-- A line may close a level after it; there is no depth below zero. -/
def leave (s : Nesting) (line : List Char) : Nesting :=
  if closesLevel line then { s with depth := s.depth - 1 } else s

/-- The nesting after some lines. -/
def through (s : Nesting) (n : Nat) : List (List Char) → Nesting
  | [] => s
  | line :: rest => through ((s.enter n line).leave line) (n + 1) rest

end Nesting

/-- The nesting of a file. -/
def nesting (lines : List (List Char)) : Nesting :=
  Nesting.through {} 0 lines

def nestingRemark (depth : Nat) : Remark where
  key := "deep-nesting"
  severity := severityAbove 6 depth
  title := "Deep Nesting"
  description := s!"Maximum nesting depth of {depth} detected."
  suggestion :=
    "Reduce nesting by using early returns, extracting functions, or guard clauses."
  impact := "Deep nesting makes code harder to read and understand."
  effort := .medium

/-- The finding about the deepest line. -/
def nestingFindings (lines : List (List Char)) : List Finding :=
  let s := nesting lines
  if 4 < s.deepest then [⟨nestingRemark s.deepest, s.line + 1⟩] else []

/-- A signature: group 1 is the name and group 2 the parameter list. -/
def signature : Pattern :=
  boundary ++ oneOfTexts ["function", "def"] ++ gap ++ capture 1 word ++ blanks ++ lit "(" ++
    capture 2 (many (.noneOf ")")) ++ lit ")"

/-- The markers in a parameter list that are no parameters. -/
def markers : List String :=
  ["self", "cls", "*", "/"]

/-- The parameters in a list. -/
def parameters (list : List Char) : List (List Char) :=
  ((list.splitOn ',').map Text.strip).filter fun p =>
    !p.isEmpty && !markers.contains (String.ofList p)

def parameterRemark (name : String) (count : Nat) : Remark where
  key := "many-parameters"
  severity := severityAbove 8 count
  title := "Too Many Parameters"
  description := s!"Function '{name}' has {count} parameters."
  suggestion :=
    "Consider using an options object or breaking the function into smaller functions."
  impact := "Functions with many parameters are harder to use and maintain."
  effort := .medium

/-- The remark that a line deserves for its parameters. -/
def parameterRemark? (line : List Char) : Option Remark :=
  (signature.search? line).bind fun m =>
    let count := (parameters ((m.group? 2).getD [])).length
    if 5 < count then some (parameterRemark (String.ofList ((m.group? 1).getD [])) count) else none

/-- The findings about long parameter lists. -/
def parameterFindings (lines : List (List Char)) : List Finding :=
  (lines.zipIdx 1).filterMap fun (line, n) => (parameterRemark? line).map fun r => ⟨r, n⟩

end Assay.Complexity
