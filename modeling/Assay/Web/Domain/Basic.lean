import Assay.Text.Lower
import Assay.Web.Domain.Label
import Assay.Web.Domain.Punycode

/-!
# Domain names

A domain name is written in ASCII, where a label with other characters is encoded behind a prefix.

* `Domain.encode`: a domain name in ASCII;
* `Domain.decode`: a domain name in all its characters.
-/

namespace Assay.Web.Domain

/-- What stands before an encoded label. -/
def encodedPrefix : List Char := "xn--".toList

/-- A dot, in the form of any script. -/
def isDot (c : Char) : Bool :=
  ['.', '\u3002', '\uFF0E', '\uFF61'].contains c

/-- The labels of a domain name, and whether a dot follows the last. -/
def labels (s : List Char) : List (List Char) × Bool :=
  let ls := s.splitOnP isDot
  if ls.getLast? == some [] then (ls.dropLast, true) else (ls, false)

/-- Labels with dots between them. -/
def joined (ls : List (List Char)) (dotAtEnd : Bool) : List Char :=
  ['.'].intercalate (ls ++ if dotAtEnd then [[]] else [])

/-- Whether a domain name is short enough. -/
def fits (s : List Char) (dotAtEnd : Bool) : Bool :=
  s.length ≤ if dotAtEnd then 254 else 253

/-- A label of ASCII characters in all its characters. -/
def decodeLabel (label : List Char) : Except LabelFault (List Char) := do
  let label := label.map Char.toLower
  if encodedPrefix.isPrefixOf label then
    let body := label.drop encodedPrefix.length
    if body.isEmpty then throw .noContent
    if body.getLast? == some '-' then throw .encodedHyphenAtEnd
    match Punycode.decode? body with
    | none => throw .notEncoded
    | some label => checkLabel label; return label
  else
    checkLabel label
    return label

/-- The longest label in ASCII. -/
def maxEncodedLength : Nat := 63

/-- A label in ASCII. -/
def encodeLabel (label : List Char) : Except LabelFault (List Char) := do
  let encoded ←
    if label.all fun c => c.toNat < 128 then do
      let _ ← decodeLabel label
      pure label
    else do
      checkLabel label
      pure (encodedPrefix ++ Punycode.encode label)
  if maxEncodedLength < encoded.length then throw .tooLong
  return encoded

/-- A domain name in ASCII. -/
def encode (s : List Char) : Except LabelFault (List Char) := do
  if !fits s true then throw .domainTooLong
  let (ls, dotAtEnd) := labels s
  let encoded := joined (← ls.mapM encodeLabel) dotAtEnd
  if ls.isEmpty then throw .empty
  if !fits encoded dotAtEnd then throw .domainTooLong
  return encoded

/-- A domain name of ASCII characters in all its characters. -/
def decode (s : List Char) : Except LabelFault (List Char) := do
  if !fits s true then throw .domainTooLong
  let (ls, dotAtEnd) := labels s
  return joined (← ls.mapM decodeLabel) dotAtEnd

end Assay.Web.Domain
