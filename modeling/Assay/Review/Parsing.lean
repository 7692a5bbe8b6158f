import Assay.Issue
import Assay.Json.Reader
import Assay.Text.Lower
import Assay.Text.Numeral

/-!
# Reading a model's reply

A reply is text that nobody has checked. The array in it is whatever stands between its first
opening and its last closing bracket. Every object of the array becomes an issue, whose fields fall
back to defaults where the object has nothing usable.

* `arraySpan?`: the text of the array;
* `memberOr`, `textOr`, `lineOf`: one field each;
* `issueOf`: the issue of one object;
* `ParseOutcome.ofReply`: what a reply yields. Only a line number that is spelled as no integer can
  make it fail.
-/

namespace Assay.Review

/-- The text from the first opening to the last closing bracket, if they come in that order. -/
def arraySpan? (s : List Char) : Option (List Char) :=
  match ((s.dropWhile (· != '[')).reverse.dropWhile (· != ']')).reverse with
  | [] => none
  | c :: rest => some (c :: rest)

/-- A member of a vocabulary, named in either case and with blanks around it, or a default. -/
def memberOr {α : Type} (ofName? : String → Option α) (default : α) (v : Json) : α :=
  (v.asString?.bind fun s =>
    ofName? (String.ofList (Text.lower (Text.strip s.toList)))).getD default

/-- A text without the blanks around it, or a default if nothing is left. -/
def textOr (default : String) (v : Json) : String :=
  match v.asString? with
  | none => default
  | some s => if (Text.trimmed s).isEmpty then default else Text.trimmed s

/-- A line number counts from one. -/
def positive (n : Int) : Option Int :=
  if 1 ≤ n then some n else none

/-- A line number, given as an integer or as a text of digits. -/
def lineOf : Json → Except Failure (Option Int)
  | .int n => .ok (positive n)
  | .str s =>
    let digits := Text.strip s.toList
    if digits.isEmpty || !digits.all Text.isNumeral then .ok none
    else
      match Text.readInt (String.ofList digits) with
      | .ok n => .ok (positive n)
      | .error e => .error (.number e)
  | _ => .ok none

/-- A file of the batch: the one named, or else the first. -/
def fileOf (paths : List String) (v : Json) : String :=
  match v.asString? with
  | some s => if paths.contains s then s else paths.head?.getD "unknown"
  | none => paths.head?.getD "unknown"

/-- The issue of one object. -/
def issueOf (paths : List String) (id : String) (o : Json) : Except Failure Issue := do
  let line ← lineOf (o.field "line")
  return {
    id
    kind := memberOr IssueKind.ofName? .maintainability (o.field "type")
    severity := memberOr Severity.ofName? .medium (o.field "severity")
    title := textOr "Code Quality Issue" (o.field "title")
    description := textOr "Issue detected by AI analysis" (o.field "description")
    file := fileOf paths (o.field "file")
    line
    suggestion := textOr "Review and improve this code" (o.field "suggestion")
    impact := textOr "May affect code quality" (o.field "impact")
    effort := memberOr Effort.ofName? .medium (o.field "effort") }

/-- The objects of an array. -/
def objectsOf (items : List Json) : List Json :=
  items.filter fun
    | .obj _ => true
    | _ => false

/-- The issues of some objects, with ids from the `first` on. -/
def issuesOf (paths : List String) (idOf : Nat → String) (first : Nat) :
    List Json → Except Failure (List Issue)
  | [] => .ok []
  | o :: rest => do
    let i ← issueOf paths (idOf first) o
    let is ← issuesOf paths idOf (first + 1) rest
    return i :: is

/-- What a reply yields. -/
structure ParseOutcome where
  issues : List Issue := []
  foundArray : Bool := false
  /-- Why the array could not be read. -/
  problem : Option String := none
  deriving DecidableEq, Repr

/-- What a reply yields; the ids of its issues are `idOf first`, `idOf (first + 1)` and so on. -/
def ParseOutcome.ofReply (paths : List String) (idOf : Nat → String) (first : Nat)
    (reply : Option String) : Except Failure ParseOutcome :=
  match arraySpan? (reply.getD "").toList with
  | none => .ok {}
  | some span =>
    match Json.read span with
    | .error e => .ok { foundArray := true, problem := some e.message }
    | .ok (.arr items) => do
      let issues ← issuesOf paths idOf first (objectsOf items)
      return { issues, foundArray := true }
    | .ok v =>
      .ok { foundArray := true, problem := some s!"expected a JSON array, got {v.kindName}" }

end Assay.Review
