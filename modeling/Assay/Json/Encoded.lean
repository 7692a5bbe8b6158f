import Assay.Failure
import Assay.Text.Encoding.Unicode

/-!
# JSON in bytes

The bytes of a document tell their encoding: by a mark at their start, or else by the zeros among
the first of them, as a document begins with a character of ASCII.

* `Json.markOf?`: the encoding that a mark tells;
* `Json.unmarkedEncoding`: the encoding that zeros tell;
* `Json.ofBytes`: the document.
-/

namespace Assay.Json

open Text (Encoding)

/-- The encoding that a mark tells, how long the mark is, and the place of the byte after it. -/
def markOf? : List UInt8 → Option (Encoding × Nat × Nat)
  | 0 :: 0 :: 0xFE :: 0xFF :: _ => some (Text.utf32 true true, 4, 4)
  | 0xFF :: 0xFE :: 0 :: 0 :: _ => some (Text.utf32 false true, 4, 4)
  | 0xFE :: 0xFF :: _ => some (Text.utf16 true true, 2, 2)
  | 0xFF :: 0xFE :: _ => some (Text.utf16 false true, 2, 2)
  | 0xEF :: 0xBB :: 0xBF :: _ => some (Text.utf8, 3, 0)
  | _ => none

/-- The encoding of a document without a mark. -/
def unmarkedEncoding : List UInt8 → Encoding
  | [a, b] =>
    if a = 0 then Text.utf16 true true
    else if b = 0 then Text.utf16 false true
    else Text.utf8
  | a :: b :: c :: d :: _ =>
    if a = 0 then if b = 0 then Text.utf32 true true else Text.utf16 true true
    else if b = 0 then if c = 0 ∧ d = 0 then Text.utf32 false true else Text.utf16 false true
    else Text.utf8
  | _ => Text.utf8

/-- The document that bytes stand for. -/
def ofBytes (bytes : List UInt8) : Except Failure Json := do
  let (encoding, mark, place) := (markOf? bytes).getD (unmarkedEncoding bytes, 0, 0)
  let text ← (encoding.strict place (bytes.drop mark)).mapError .undecodable
  (read text).mapError .malformedJson

end Assay.Json
