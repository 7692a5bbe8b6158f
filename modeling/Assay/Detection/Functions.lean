import Assay.Structure.Vocabulary

/-!
# Where functions begin and end

`functionSpans` finds the functions of a file. Only the outermost declarations count: while one is
open, the declarations inside it belong to it. In languages with braces a function ends where its
braces balance; in the others at the first line that is indented no deeper than its declaration.

* `declaration`: the line that declares a function or a class, with its name;
* `OpenFunction`: a function whose end is still to come;
* `FunctionSpan`: a function that has ended.
-/

namespace Assay

open Pattern

/-- How a language delimits the body of a function. -/
inductive BlockStyle where
  | braces | indent
  deriving DecidableEq, Repr

/-- How a language delimits the body of a function. -/
def Language.blockStyle : Language → BlockStyle
  | .python | .ruby => .indent
  | _ => .braces

/-- The declaration of a function or a class; group 1 is its name. -/
def declaration : Pattern :=
  boundary ++ oneOfTexts ["function", "def", "class"] ++ gap ++ capture 1 word

/-- The name that a line declares. -/
def declaredName? (line : List Char) : Option String :=
  (declaration.search? line).map fun m => String.ofList ((m.group? 1).getD [])

/-- The number of leading blanks. -/
def indentOf (line : List Char) : Nat :=
  (line.takeWhile Text.isBlank).length

/-- A function whose end is still to come. -/
structure OpenFunction where
  name : String
  /-- The index of the declaration, from zero. -/
  start : Nat
  indent : Nat
  lineCount : Nat := 0
  complexity : Nat := 1
  /-- How many more braces were opened than closed. -/
  balance : Int := 0
  /-- Whether more were ever open at the end of a line. -/
  opened : Bool := false
  deriving DecidableEq, Repr

/-- A function that has ended. -/
structure FunctionSpan where
  name : String
  /-- The index of the declaration, from zero. -/
  start : Nat
  lineCount : Nat
  complexity : Nat
  deriving DecidableEq, Repr

namespace OpenFunction

/-- The function ends with the lines it has. -/
def toSpan (f : OpenFunction) : FunctionSpan :=
  ⟨f.name, f.start, f.lineCount, f.complexity⟩

/-- A line of the function. -/
def absorb (l : Language) (f : OpenFunction) (line : List Char) : OpenFunction :=
  { f with lineCount := f.lineCount + 1, complexity := f.complexity + l.decisionCount line }

/-- The braces of a line. -/
def weigh (f : OpenFunction) (line : List Char) : OpenFunction :=
  let balance := f.balance + line.count '\x7b' - line.count '\x7d'
  { f with balance, opened := f.opened || 0 < balance }

/-- The braces have been open and are balanced again. -/
def isBalanced (f : OpenFunction) : Bool :=
  f.opened && f.balance ≤ 0

/-- A line that is indented no deeper than the declaration ends an indented function. -/
def isEndedBy (f : OpenFunction) (line : List Char) : Bool :=
  !(Text.strip line).isEmpty && indentOf line ≤ f.indent

end OpenFunction

/-- A line that starts a function, if it declares one. -/
def openFunction? (n : Nat) (line : List Char) : Option OpenFunction :=
  (declaredName? line).map fun name => { name, start := n, indent := indentOf line }

namespace FunctionSpan

/-- The functions that end from one line on, in a language with braces. -/
def braced (l : Language) (n : Nat) : Option OpenFunction → List (List Char) → List FunctionSpan
  | _, [] => []
  | current, line :: rest =>
    match current.orElse fun _ => openFunction? n line with
    | none => braced l (n + 1) none rest
    | some f =>
      let f := (f.absorb l line).weigh line
      if f.isBalanced then f.toSpan :: braced l (n + 1) none rest
      else braced l (n + 1) (some f) rest

/-- The functions that end from one line on, in a language that indents. A line `end` belongs to
the function it ends; any other line that ends one may declare the next. -/
def indented (l : Language) (n : Nat) : Option OpenFunction → List (List Char) → List FunctionSpan
  | none, [] => []
  | some f, [] => [f.toSpan]
  | none, line :: rest =>
    indented l (n + 1) ((openFunction? n line).map fun f => f.absorb l line) rest
  | some f, line :: rest =>
    if f.isEndedBy line then
      if Text.strip line == "end".toList then
        { f.toSpan with lineCount := f.lineCount + 1 } :: indented l (n + 1) none rest
      else
        f.toSpan ::
          indented l (n + 1) ((openFunction? n line).map fun f => f.absorb l line) rest
    else indented l (n + 1) (some (f.absorb l line)) rest

end FunctionSpan

/-- The functions of a file, in the order in which they end. -/
def functionSpans (l : Language) (lines : List (List Char)) : List FunctionSpan :=
  match l.blockStyle with
  | .braces => FunctionSpan.braced l 0 none lines
  | .indent => FunctionSpan.indented l 0 none lines

end Assay
