import Assay.Binary64
import Assay.Issue

/-!
# Test coverage

An estimate from file names: how many files are tests for every file that is none. The ratio, the
threshold and the percentage are floats, so the cut is made among those.

* `isTestFile`: a path that speaks of tests;
* `Coverage.judge`: the verdict on two counts;
* `Coverage.issues`: the issues of a set of files.
-/

namespace Assay

/-- Whether a path contains a text in either case. -/
def pathMentions (path part : String) : Bool :=
  Text.occursIn part.toList (Text.lower path.toList)

/-- A path that speaks of tests. -/
def isTestFile (path : String) : Bool :=
  pathMentions path "test" || pathMentions path "spec"

namespace Coverage

/-- The verdict on a project's tests. -/
inductive Verdict where
  | noTests
  /-- Too few, with the percentage. -/
  | low (percent : Int)
  | enough
  deriving DecidableEq, Repr

/-- The least ratio that is enough: three tenths, as a float. -/
def threshold : Rat :=
  Binary64.nearest (3 / 10)

/-- The ratio as a percentage, a half going to the even neighbour. -/
def percent (ratio : Rat) : Int :=
  halfEven (Binary64.nearest (ratio * 100))

/-- The verdict on `tests` test files beside `sources` other files. -/
def judge (tests sources : Nat) : Verdict :=
  if tests = 0 then .noTests
  else if sources = 0 then .enough
  else
    let ratio := Binary64.divide tests sources
    if threshold ≤ ratio then .enough else .low (percent ratio)

def noTestsIssue : Issue where
  id := "no-tests"
  kind := .testing
  severity := .high
  title := "No Test Files Found"
  description := "No test files detected in the codebase."
  file := projectFile
  line := none
  suggestion := "Add unit tests for your functions and components."
  impact := "Lack of tests makes it difficult to catch bugs and refactor safely."
  effort := .high

def lowIssue (percent : Int) : Issue where
  id := "low-test-coverage"
  kind := .testing
  severity := .medium
  title := "Low Test Coverage"
  description := s!"Only {percent}% of source files have corresponding tests."
  file := projectFile
  line := none
  suggestion := "Increase test coverage by adding tests for untested modules."
  impact := "Insufficient testing increases the risk of bugs in production."
  effort := .high

/-- The issue that a verdict calls for. -/
def Verdict.issues : Verdict → List Issue
  | noTests => [noTestsIssue]
  | low percent => [lowIssue percent]
  | enough => []

/-- The issues about the tests of a project. -/
def issues (units : List SourceUnit) : List Issue :=
  (judge (units.countP fun u => isTestFile u.path)
    (units.countP fun u => !isTestFile u.path)).issues

end Coverage

end Assay
