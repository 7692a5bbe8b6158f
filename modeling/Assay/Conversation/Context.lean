import Assay.Report.Basic
import Assay.Failure

/-!
# What a model is told about a report

Every question goes to the model together with a context: the summary of the report, its first
issues, a few paths of every language and the last turns of the conversation. Every list is cut and
every text clipped, so the context does not grow with what it describes.

* `Turn`: a question and its answer;
* `contextOf`: the context;
* `questionPrompt`: the context and the question;
* `suggestedQuestions`: what one might ask about a report.
-/

namespace Assay

/-- A question and what the model answered, if it answered with a text. -/
structure Turn where
  question : String
  answer : Option String
  deriving DecidableEq, Repr

namespace Context

/-- How many issues are told. -/
def topIssues : Nat := 10

/-- How much of a text of an issue is told. -/
def fieldLimit : Nat := 300

/-- How many paths of a language are told. -/
def pathsPerLanguage : Nat := 5

/-- How many turns are told. -/
def turnsTold : Nat := 3

/-- How much of a question or an answer is told. -/
def turnLimit : Nat := 200

def summaryLines (r : Report) : List String :=
  let s := r.summary
  let m := r.metrics
  ["=== CODE ANALYSIS REPORT ===", s!"Files analyzed: {s.totalFiles}",
   s!"Total lines: {s.totalLines}", "Languages: " ++ Text.join ", " s.languages,
   s!"Issues found: {s.issueCount}", "", "Issue Severity Breakdown:"] ++
    s.breakdown.map (fun (name, n) => s!"- {name}: {n}") ++
    ["", "Quality Metrics:", s!"- Code Complexity: {m.codeComplexity}/10",
     s!"- Test Coverage: {m.testCoverage}%", s!"- Code Duplication: {m.duplicationPercentage}%",
     s!"- Maintainability Index: {m.maintainabilityIndex}/100", "", "Top Priority Issues:"]

/-- The `n`-th issue. -/
def issueLines (i : Issue) (n : Nat) : List String :=
  [s!"{n}. [{i.severity.label}] {Text.clip i.title fieldLimit}",
   s!"   File: {Text.clip i.location fieldLimit}", s!"   Type: {i.kind.name}",
   s!"   Description: {Text.clip i.description fieldLimit}",
   s!"   Suggestion: {Text.clip i.suggestion fieldLimit}", ""]

/-- The paths of the files of a language. -/
def pathsOf (units : List SourceUnit) (l : Language) : List String :=
  (units.filter fun u => u.language == l).map (·.path)

def languageLines (units : List SourceUnit) (l : Language) : List String :=
  let paths := pathsOf units l
  [s!"{l.name}: {paths.length} files"] ++
    (paths.take pathsPerLanguage).map (fun p => s!"  - {Text.clip p fieldLimit}") ++
    if pathsPerLanguage < paths.length then
      [s!"  ... and {paths.length - pathsPerLanguage} more"]
    else []

def fileLines (units : List SourceUnit) : List String :=
  ["File Structure:"] ++
    ((units.map (·.language)).eraseDups).flatMap (languageLines units) ++ [""]

/-- A turn; one without an answer cannot be told. -/
def turnLines (t : Turn) : Except Failure (List String) :=
  match t.answer with
  | some answer =>
    .ok [s!"Q: {Text.clip t.question turnLimit}", s!"A: {Text.clip answer turnLimit}", ""]
  | none => .error (.wrongType (.noLength "NoneType"))

/-- The last turns of a conversation. -/
def lastTurns (history : List Turn) : List Turn :=
  history.drop (history.length - turnsTold)

def historyLines (history : List Turn) : Except Failure (List String) :=
  if history.isEmpty then .ok []
  else do
    let told ← (lastTurns history).mapM turnLines
    return "Previous Conversation:" :: told.flatten

end Context

open Context in
/-- The context of a question about a report. -/
def contextOf (r : Report) (units : List SourceUnit) (history : List Turn) :
    Except Failure String := do
  let told ← historyLines history
  return Text.join "\n" (summaryLines r ++
    ((r.issues.take topIssues).zipIdx 1).flatMap (fun (i, n) => issueLines i n) ++
    fileLines units ++ told)

/-- A question in its context. -/
def questionPrompt (context question : String) : String :=
  "Context: You are analyzing a codebase. Here's the relevant information:\n" ++ context ++
    "\n\nQuestion: " ++ question ++
    "\n\nPlease provide a clear, helpful answer based on the code context provided."

/-- The questions that suit every report. -/
def baselineQuestions : List String :=
  ["What are the most critical issues I should fix first?",
   "How can I improve the overall code quality?", "What files need the most attention?"]

/-- The questions that suit a report with issues of a kind. -/
def kindQuestions : List (IssueKind × List String) :=
  [(.security,
     ["What security vulnerabilities were found?", "How can I make my code more secure?"]),
   (.performance,
     ["What performance issues should I address?",
      "How can I optimize the slow parts of my code?"]),
   (.testing,
     ["How can I improve test coverage?", "What parts of the code need more testing?"]),
   (.complexity,
     ["Which functions are too complex?", "How can I reduce code complexity?"]),
   (.documentation,
     ["What documentation is missing?", "How can I improve code documentation?"])]

/-- The questions that suit a report with such metrics. -/
def metricQuestions (m : Metrics) : List String :=
  (if m.testCoverage < 50 then ["Why is my test coverage so low?"] else []) ++
    (if 7 < m.codeComplexity then ["Why is my code complexity high?"] else []) ++
    (if 20 < m.duplicationPercentage then ["Where is the duplicated code?"] else [])

/-- At most eight questions that one might ask about a report. -/
def suggestedQuestions (r : Report) : List String :=
  (baselineQuestions ++
    (kindQuestions.filter fun (k, _) => r.mentions k).flatMap (·.2) ++
    metricQuestions r.metrics).take 8

end Assay
