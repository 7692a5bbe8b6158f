import Assay.Language

/-!
# Source units

A source unit is one file under analysis: its path relative to the root, its text, its language and
its size.
-/

namespace Assay

/-- The size of a file as its source reports it. A listing may give a fraction, or say no more than
that there is a size. -/
inductive FileSize where
  | bytes (n : Int)
  | fraction (x : FloatValue)
  | unstated
  deriving DecidableEq, Repr

/-- A file under analysis. -/
structure SourceUnit where
  path : String
  content : String
  language : Language
  size : FileSize
  deriving DecidableEq, Repr

namespace SourceUnit

/-- A unit of a text at hand, sized by its encoding. -/
def ofText (path content : String) : Except Failure SourceUnit :=
  match Language.ofPath path with
  | .ok l => .ok ⟨path, content, l, .bytes content.utf8ByteSize⟩
  | .error e => .error e

/-- The characters of the text. -/
def text (u : SourceUnit) : List Char :=
  u.content.toList

/-- The lines of the text. -/
def lines (u : SourceUnit) : List (List Char) :=
  Text.lines u.text

/-- The number of lines of several units together. -/
def totalLines (units : List SourceUnit) : Nat :=
  units.foldl (fun n u => n + u.lines.length) 0

/-- How many units there are of each language, in the order in which the languages first come. -/
def languageCounts (units : List SourceUnit) : List (Language × Nat) :=
  let languages := (units.map (·.language)).eraseDups
  languages.map fun l => (l, (units.filter fun u => u.language == l).length)

end SourceUnit

end Assay
