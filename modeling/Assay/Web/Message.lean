import Assay.Deflate.Stream
import Assay.Json.Encoded
import Assay.Web.Charset
import Assay.Web.MediaType

/-!
# Messages of servers

A server answers with a message: a status, headers and a text. Taking it in checks the headers and
resolves the compressions that they name.

* `Message.receive`: the response that a message makes;
* `Response.text`, `Response.json`: the body as a text, and as a document.
-/

namespace Assay.Web

/-- What a server answers with. A header should have a text as its value. -/
structure Message where
  status : Int
  headers : List (String × Json)
  text : String
  deriving Repr

/-- A message that is taken in. -/
structure Response where
  status : Int
  headers : List (String × String)
  body : List UInt8
  deriving DecidableEq, Repr

/-- Headers have names and values in ASCII. -/
def checkAscii (s : String) : Except Failure Unit :=
  match Text.NarrowEncoding.ascii.fault? s.toList with
  | some f => .error (.unencodable f)
  | none => .ok ()

/-- A header with a text as its value. -/
def headerOf : String × Json → Except Failure (String × String)
  | (name, .str value) => do
    checkAscii name
    checkAscii value
    return (name, value)
  | (name, v) => do
    checkAscii name
    throw (.wrongType (.notHeader v.kindName))

/-- The values of a header, whatever the case of its name. -/
def valuesOf (headers : List (String × String)) (name : String) : List String :=
  headers.filterMap fun (k, v) => if k.toLower == name.toLower then some v else none

/-- Bytes without one compression. Text never starts as `gzip` does, so that one is at fault at its
second byte; a name of any other kind stands for none. -/
def resolve (compression : String) (bytes : List UInt8) : Except Failure (List UInt8) :=
  if bytes.isEmpty then .ok []
  else if compression = "gzip" then
    if bytes.length < 2 then .ok [] else .error (refused .header)
  else if compression = "deflate" then
    match Deflate.inflateWrapped bytes with
    | .ok content => .ok content
    | .error _ => (Deflate.inflate bytes).mapError refused
  else .ok bytes
where
  refused (f : Deflate.Fault) : Failure := .requestFailed f.message

/-- The compressions that headers name, the outermost one first. -/
def compressions (headers : List (String × String)) : List String :=
  ((valuesOf headers "Content-Encoding").flatMap fun v =>
    (v.toList.splitOn ',').map fun name =>
      String.ofList ((Text.strip name).map Char.toLower)).reverse

/-- The response that a message makes. -/
def Message.receive (m : Message) : Except Failure Response := do
  let headers ← m.headers.mapM headerOf
  let body ← (compressions headers).foldlM (fun bytes c => resolve c bytes) m.text.toUTF8.toList
  return ⟨m.status, headers, body⟩

namespace Response

/-- The values of a header, with commas between them. -/
def header? (r : Response) (name : String) : Option String :=
  match valuesOf r.headers name with
  | [] => none
  | values => some (", ".intercalate values)

/-- How the body is encoded: as its media type says, and otherwise in UTF-8. -/
def charset (r : Response) : Except Failure Charset := do
  let some type := r.header? "Content-Type" | return .utf8
  let some name ← MediaType.charset? type.toList | return .utf8
  if name.contains '\x00' then throw .nameWithZero
  return (Charset.named? name).getD .utf8

/-- The body as a text. -/
def text (r : Response) : Except Failure String :=
  if r.body.isEmpty then .ok ""
  else do
    let charset ← r.charset
    (charset.text r.body).mapError .unreadableText |>.map String.ofList

/-- The body as a document. -/
def json (r : Response) : Except Failure Json :=
  Json.ofBytes r.body

end Response

end Assay.Web
