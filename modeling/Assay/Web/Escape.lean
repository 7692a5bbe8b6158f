import Assay.Text.Encoding.Unicode
import Assay.Text.Numeral
import Assay.Web.Fault

/-!
# Escapes

A character that a part of an address may not hold is written as its bytes in UTF-8, each by a
percent sign and two hexadecimal digits.

* `escape`, `escapePart`, `unescape`: writing and reading;
* `queryOf`: a query of names and values;
* `base64`: bytes as text.
-/

namespace Assay.Web

/-- A hexadecimal digit in upper case. -/
def hexCapital (n : Nat) : Char :=
  (Text.hexDigit n).toUpper

/-- A character by its bytes in UTF-8. -/
def percent (c : Char) : List Char :=
  (String.utf8EncodeChar c).flatMap fun b =>
    ['%', hexCapital (b.toNat / 16), hexCapital (b.toNat % 16)]

/-- A text in which only some characters stand for themselves. -/
def escape (isPlain : Char → Bool) (s : List Char) : List Char :=
  s.flatMap fun c => if isPlain c then [c] else percent c

/-- A part of an address in which only some characters stand for themselves. Characters are encoded
one by one, so the place of a fault is always the first. -/
def escapePart (isPlain : Char → Bool) (s : List Char) : Except AddressFault (List Char) :=
  match s.find? fun c => !Text.NarrowEncoding.utf8.has c with
  | some c => .error (.unencodable ⟨.utf8, c, 0, 1⟩)
  | none => .ok (escape isPlain s)

/-- The bytes of a text whose escapes are resolved. -/
def unescapedBytes : List Char → List UInt8
  | [] => []
  | '%' :: c :: d :: rest =>
    match Text.hexValue? c, Text.hexValue? d with
    | some m, some n => UInt8.ofNat (16 * m + n) :: unescapedBytes rest
    | _, _ => 37 :: unescapedBytes (c :: d :: rest)
  | c :: rest => String.utf8EncodeChar c ++ unescapedBytes rest

/-- A text with its escapes resolved. -/
def unescape (s : List Char) : List Char :=
  Text.decode (unescapedBytes s)

/-- A character that stands for itself everywhere in an address. -/
def isUnreserved (c : Char) : Bool :=
  c.isAlphanum || c == '_' || c == '.' || c == '-' || c == '~'

/-- A name or a value in a query: a blank becomes a plus. -/
def queryPart (s : String) : Except AddressFault (List Char) :=
  match Text.NarrowEncoding.utf8.fault? s.toList with
  | some f => .error (.unencodable f)
  | none =>
    .ok (s.toList.flatMap fun c =>
      if isUnreserved c then [c] else if c == ' ' then ['+'] else percent c)

/-- A query of names and values. -/
def queryOf (parameters : List (String × String)) : Except AddressFault (List Char) := do
  let parts ← parameters.mapM fun (name, value) => do
    return (← queryPart name) ++ '=' :: (← queryPart value)
  return ['&'].intercalate parts

/-- The digits of base 64. -/
def base64Digits : List Char :=
  "ABCDEFGHIJKLMNOPQRSTUVWXYZabcdefghijklmnopqrstuvwxyz0123456789+/".toList

/-- A digit of base 64. -/
def base64Digit (n : Nat) : Char :=
  base64Digits.getD (n % 64) 'A'

/-- Bytes as text, four digits for three bytes. -/
def base64 : List UInt8 → List Char
  | a :: b :: c :: rest =>
    let n := a.toNat * 65536 + b.toNat * 256 + c.toNat
    base64Digit (n / 262144) :: base64Digit (n / 4096) :: base64Digit (n / 64) ::
      base64Digit n :: base64 rest
  | [a, b] =>
    let n := a.toNat * 1024 + b.toNat * 4
    [base64Digit (n / 4096), base64Digit (n / 64), base64Digit n, '=']
  | [a] =>
    let n := a.toNat * 16
    [base64Digit (n / 64), base64Digit n, '=', '=']
  | [] => []

end Assay.Web
