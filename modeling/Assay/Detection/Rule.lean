import Assay.Detection.Finding
import Assay.Pattern.Build

/-!
# Rules

A rule says which lines deserve a remark. Its patterns are tried on every line, and every one that
occurs is a hit, unless the rule stops at the first. A rule may ask for a context that the line
must have too, and may be silenced by a guard that occurs anywhere in the file.

* `Rule.hits`: the patterns that hit a line;
* `Rule.scan`: the hits in a text, with their lines;
* `Rule.findings`: what a rule finds in a file;
* `Rule.findingsOfAll`: what a table of rules finds, rule by rule.
-/

namespace Assay

/-- A row of a table of rules. -/
structure Rule where
  remark : Remark
  patterns : List Pattern
  /-- Must occur in the line as well. -/
  context : Option Pattern := none
  /-- Silences the rule if it occurs in the file. -/
  guard : Option Pattern := none
  /-- At most one hit a line. -/
  firstOnly : Bool := false

namespace Rule

/-- Whether a line has the context that the rule asks for. -/
def inContext (r : Rule) (line : List Char) : Bool :=
  match r.context with
  | some p => p.occursIn line
  | none => true

/-- The patterns that hit a line. -/
def hits (r : Rule) (line : List Char) : List Pattern :=
  if r.inContext line then
    let found := r.patterns.filter fun p => p.occursIn line
    if r.firstOnly then found.take 1 else found
  else []

/-- The hits in some lines, of which the first has a given number. -/
def scanFrom (r : Rule) (first : Nat) (lines : List (List Char)) : List (Nat × Pattern) :=
  (lines.zipIdx first).flatMap fun (line, n) => (r.hits line).map fun p => (n, p)

/-- The hits in a text, with lines counted from one. -/
def scan (r : Rule) (text : List Char) : List (Nat × Pattern) :=
  r.scanFrom 1 (Text.lines text)

/-- Whether a text silences the rule. -/
def silencedBy (r : Rule) (text : List Char) : Bool :=
  match r.guard with
  | some p => p.occursIn text
  | none => false

/-- What the rule finds in a file. -/
def findings (r : Rule) (text : List Char) : List Finding :=
  if r.silencedBy text then [] else (r.scan text).map fun (n, _) => ⟨r.remark, n⟩

/-- What the rules of a table find, rule by rule. -/
def findingsOfAll (rules : List Rule) (text : List Char) : List Finding :=
  rules.flatMap fun r => r.findings text

end Rule

end Assay
