import Assay.Failure
import Assay.Text.Basic
import Assay.Web.Escape

/-!
# Media types

A media type has parameters after semicolons, each a name and a value with an equals sign between
them. A value may stand in quotes. It may also be cut into segments, where the name is followed by a
star and the number of the segment, and a segment with another star is written with escapes; in
front of such a value stand the name of its encoding and a language, each with a tick after it.

* `MediaType.parameters`: the parameters as they are written;
* `MediaType.charset?`: the name of the encoding of a text.
-/

namespace Assay.Web.MediaType

/-- Cuts a text at the semicolons outside quotes. A backslash takes its meaning from the quote after
it; `current` is the piece so far, in reverse. -/
def pieces (quoted : Bool) (current : List Char) : List Char → List (List Char)
  | [] => [current.reverse]
  | c :: rest =>
    if c == ';' && !quoted then current.reverse :: pieces false [] rest
    else
      let toggles := c == '\x22' && current.head? != some '\\'
      pieces (quoted != toggles) (c :: current) rest

/-- A value without the quotes around it, or without angle brackets. -/
def unquoted (s : List Char) : List Char :=
  let inQuotes := s.head? == some '\x22' && s.getLast? == some '\x22'
  let inBrackets := s.head? == some '<' && s.getLast? == some '>'
  if 1 < s.length && (inQuotes || inBrackets) then (s.drop 1).dropLast else s

/-- The parameters, with names in lower case and values out of their quotes. What stands before the
first semicolon comes first. -/
def parameters (s : List Char) : List (List Char × List Char) :=
  (pieces false [] s).map fun piece =>
    let name := piece.takeWhile (· != '=')
    let value := (piece.dropWhile (· != '=')).drop 1
    ((Text.strip name).map Char.toLower, unquoted (Text.strip value))

/-- A segment of a value. -/
structure Segment where
  /-- There is no number if the value is not cut. -/
  number : Option Nat
  text : List Char
  escaped : Bool
  deriving DecidableEq, Repr

/-- A character of a name in front of a star. -/
def isWordChar (c : Char) : Bool :=
  c.isAlphanum || c == '_'

/-- The name and the segment of a parameter whose name has a star. -/
def segment? (name value : List Char) : Option (List Char × Segment) :=
  let word := name.takeWhile isWordChar
  match name.dropWhile isWordChar with
  | '*' :: rest =>
    let digits := rest.takeWhile Char.isDigit
    let number :=
      if digits.isEmpty then none
      else some (digits.foldl (fun n d => 10 * n + (d.toNat - '0'.toNat)) 0)
    if word.isEmpty then none else some (word, ⟨number, value, name.getLast? == some '*'⟩)
  | _ => none

/-- The characters of a segment. -/
def Segment.characters (s : Segment) : List Char :=
  if s.escaped then (unescapedBytes s.text).map fun b => Char.ofNat b.toNat else s.text

/-- The order of segments. -/
def Segment.precedes (a b : Segment) : Bool :=
  if a.number != b.number then a.number.getD 0 < b.number.getD 0
  else if a.text != b.text then !(String.ofList b.text < String.ofList a.text)
  else !a.escaped || b.escaped

/-- Segments with numbers have no order with segments without. -/
def orderFault? : List Segment → Option TypeFault
  | [] => none
  | a :: rest =>
    (rest.find? fun b => a.number.isSome != b.number.isSome).map fun b =>
      .unordered "<" (numberKind b) (numberKind a)
where
  numberKind (s : Segment) : String :=
    ((s.number.map fun n => Json.int n).getD .null).kindName

/-- The value that segments make up. -/
def joined (segments : List Segment) : List Char :=
  let text := (segments.mergeSort Segment.precedes).flatMap Segment.characters
  if segments.any Segment.escaped then
    match text.splitOn '\'' with
    | _ :: _ :: c :: rest => ['\''].intercalate (c :: rest)
    | _ => text
  else text

/-- Segments by the names of their parameters. -/
def grouped (cut : List (List Char × Segment)) : List (List Char × List Segment) :=
  ((cut.map (·.1)).eraseDups).map fun name =>
    (name, (cut.filter fun (k, _) => k == name).map (·.2))

/-- The value of a parameter: one that is not cut, or else one made up of segments. Nothing is cut
before the first semicolon. -/
def parameter? (s : List Char) (name : String) : Except Failure (Option (List Char)) := do
  let all := parameters s
  let groups := grouped ((all.drop 1).filterMap fun (k, v) => segment? k v)
  if let some f := groups.findSome? fun (_, segments) => orderFault? segments then
    throw (.wrongType f)
  let whole := all.take 1 ++ (all.drop 1).filter fun (k, v) => (segment? k v).isNone
  return (whole.lookup name.toList).or ((groups.lookup name.toList).map joined)

/-- The name of the encoding of a text, which is in ASCII. -/
def charset? (s : List Char) : Except Failure (Option (List Char)) := do
  return (← parameter? s "charset").filter fun v => v.all fun c => c.toNat < 128

end Assay.Web.MediaType
