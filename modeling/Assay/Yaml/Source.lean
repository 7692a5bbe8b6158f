import Assay.Failure
import Assay.Text.Encoding.Unicode
import Assay.Yaml.Place

/-!
# Where a document comes from

A document is taken in by pieces. What is wrong with a piece is found when the piece is taken in,
and then what comes before the piece may still be read. Two pieces are taken in before anything is
read.

* `Source`: the text that can be read, and why there is no more;
* `Source.ofBytes`: the source that some bytes are.
-/

namespace Assay.Yaml

/-- A text to be read. -/
structure Source where
  text : List Char
  /-- Why nothing can be read after the text, if it does not end there. -/
  fault : Option Failure
  deriving Repr

namespace Source

/-- The characters of a piece. -/
def pieceLength : Nat := 4096

/-- The start of the piece in which a character lies. -/
def pieceStart (n : Nat) : Nat :=
  n / pieceLength * pieceLength

/-- A source that is cut off before the piece in which a fault lies. -/
def cutAt (s : List Char) (n : Nat) (f : Failure) : Except Failure Source :=
  if pieceStart n < 2 * pieceLength then .error f else .ok ⟨s.take (pieceStart n), some f⟩

/-- A source without the characters that no document may hold, and without all that comes after
them. -/
def checked (s : Source) : Except Failure Source :=
  let n := (s.text.takeWhile isAllowed).length
  if n < s.text.length then cutAt s.text n .malformedYaml else .ok s

/-- The source that some bytes are, as text in UTF-8. -/
def ofBytes (bytes : List UInt8) : Except Failure Source := do
  let (text, fault) := Text.utf8.readChunks bytes
  let text := Text.unifyNewlines text
  let s ←
    match fault with
    | some f => cutAt text text.length (.undecodable f)
    | none => pure ⟨text, none⟩
  s.checked

end Source

end Assay.Yaml
