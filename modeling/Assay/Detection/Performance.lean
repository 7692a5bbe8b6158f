import Assay.Detection.Rule

/-!
# Performance rules

The table of rules for code that wastes time or memory, and the search for nested loops.

* `rules`: the table;
* `Loops`: the loops that are open at a line, kept both as a stack of lines and as a depth;
* `nestedLoops`: one finding for every line that opens a loop at the third level or deeper.
-/

namespace Assay.Performance

open Pattern

/-- A method of an object and its opening parenthesis. -/
def methodCall (name : String) : Pattern :=
  lit name ++ blanks ++ lit "("

/-- A method whose result has the same method called on it. -/
def chained (method : String) : Pattern :=
  methodCall ("." ++ method) ++ many (.noneOf ")") ++ lit ")" ++ blanks ++
    lit ("." ++ method ++ "(")

def query : Rule where
  remark :=
    { key := "inefficient-query"
      severity := .medium
      title := "Inefficient Query Pattern"
      description := "Detected potentially inefficient data access pattern."
      suggestion :=
        "Optimize queries by selecting specific fields, using indexes, or combining operations."
      impact := "Slower query execution and increased resource usage."
      effort := .medium }
  patterns := List.map ignoreCase
    [lit "SELECT" ++ gap ++ lit "*" ++ gap ++ lit "FROM",
     chained "find",
     chained "filter",
     lit "for" ++ anything ++ lit "in" ++ anything ++ lit "for" ++ anything ++ lit "in",
     boundary ++ lit "for" ++ boundary ++ anything ++ boundary ++ maybe (lit "await" ++ gap) ++
        word ++ lit "." ++ oneOfTexts ["query", "execute", "find", "findOne", "findById"] ++
        blanks ++ lit "("]

def listener : Rule where
  remark :=
    { key := "listener-leak"
      severity := .medium
      title := "Event Listener Not Cleaned Up"
      description :=
        "Event listener registered without any corresponding removal in this file."
      suggestion := "Add corresponding removeEventListener calls when the listener is " ++
        "no longer needed."
      impact := "Gradual memory consumption increase, potential application crashes."
      effort := .low }
  patterns := [ignoreCase (methodCall "addEventListener")]
  guard := some (methodCall "removeEventListener")

def timer : Rule where
  remark :=
    { key := "timer-leak"
      severity := .medium
      title := "Timer Not Cleaned Up"
      description :=
        "Interval timer started without any corresponding clearInterval in this file."
      suggestion := "Add corresponding clearInterval calls."
      impact := "Gradual memory consumption increase, potential application crashes."
      effort := .low }
  patterns := [ignoreCase (methodCall "setInterval")]
  guard := some (methodCall "clearInterval")

def leak : Rule where
  remark :=
    { key := "memory-leak"
      severity := .low
      title := "Potential Memory Leak"
      description := "Code pattern that could lead to memory leaks detected."
      suggestion := "Ensure proper cleanup of resources."
      impact := "Gradual memory consumption increase, potential application crashes."
      effort := .low }
  patterns := List.map ignoreCase
    [lit "new" ++ gap ++ methodCall "Array" ++ blanks ++ run .decimal 6 true ++ blanks ++ lit ")",
     boundary ++ lit "global."]

def blocking : Rule where
  remark :=
    { key := "sync-operation"
      severity := .medium
      title := "Synchronous Operation"
      description :=
        "Blocking synchronous operation detected that could freeze the application."
      suggestion :=
        "Replace with asynchronous alternatives using async/await or promises."
      impact := "Application blocking, poor user experience, reduced throughput."
      effort := .medium }
  patterns := List.map ignoreCase
    [methodCall "readFileSync",
     methodCall "writeFileSync",
     methodCall "execSync",
     methodCall ".sync" ++ blanks ++ lit ")",
     boundary ++ methodCall "time.sleep"]

/-- At least two hundred characters between a pair of brackets. -/
def long (opening closing : String) : Pattern :=
  lit opening ++ run (.noneOf closing) 200 true ++ lit closing

def largeData : Rule where
  remark :=
    { key := "large-data-structure"
      severity := .low
      title := "Large Data Structure"
      description := "Large inline data structure detected that could impact performance."
      suggestion := "Consider loading data from external files or using lazy loading."
      impact := "Increased memory usage and slower initial load times."
      effort := .medium }
  patterns := [long "[" "]", long "\x7b" "\x7d"]
  firstOnly := true

/-- The rules in the order in which they are applied. -/
def rules : List Rule :=
  [query, listener, timer, leak, blocking, largeData]

/-- A word that opens a loop. -/
def loop : Pattern :=
  ignoreCase (wholeWord ["for", "while", "forEach", "map", "filter", "reduce"])

/-- The depth from which nested loops are reported. -/
def loopThreshold : Nat := 3

/-- The loops that are open: how many, and the lines that opened them, the latest first. -/
structure Loops where
  depth : Nat
  opened : List Nat
  deriving DecidableEq, Repr

namespace Loops

def none : Loops :=
  ⟨0, []⟩

/-- A loop opens at a line. -/
def openAt (s : Loops) (line : Nat) : Loops :=
  ⟨s.depth + 1, line :: s.opened⟩

/-- The latest loop closes. -/
def close (s : Loops) : Loops :=
  match s.opened with
  | [] => s
  | _ :: rest => ⟨s.depth - 1, rest⟩

end Loops

/-- The remark about a loop at a depth. -/
def nestedRemark (depth : Nat) : Remark where
  key := "nested-loops"
  severity := .medium
  title := "Deeply Nested Loops"
  description := s!"Found {depth} levels of nested loops, which can cause O(n^{depth}) complexity."
  suggestion := "Consider optimizing with better algorithms, caching, " ++
    "or breaking down into smaller functions."
  impact := "Poor performance with large datasets, potential for exponential time complexity."
  effort := .high

/-- A line that holds nothing but a closing brace. -/
def isClosing (line : List Char) : Bool :=
  Text.strip line == ['\x7d']

/-- The loops after the opening part of a line. -/
def enter (s : Loops) (n : Nat) (line : List Char) : Loops :=
  if loop.occursIn line then s.openAt n else s

/-- The loops after a line. -/
def leave (s : Loops) (line : List Char) : Loops :=
  if isClosing line then s.close else s

/-- The findings from one line on, given the loops that are open there. -/
def loopsFrom (s : Loops) (n : Nat) : List (List Char) → List Finding
  | [] => []
  | line :: rest =>
    let inside := enter s n line
    (if loop.occursIn line && loopThreshold ≤ inside.depth then
      [⟨nestedRemark inside.depth, n⟩] else []) ++
      loopsFrom (leave inside line) (n + 1) rest

/-- Loops nested at least three deep. -/
def nestedLoops (text : List Char) : List Finding :=
  loopsFrom .none 1 (Text.lines text)

end Assay.Performance
