import Assay.Pattern.Build
import Assay.Web.Domain.Basic
import Assay.Web.Escape
import Assay.Web.Network

/-!
# Web addresses

An address is cut into a scheme, an authority, a path, a query and a fragment, and the authority
into a user, a host and a port. It is kept in one form: the scheme and the host in lower case,
domain names in ASCII, no port that the scheme implies, no dots among the components of a path below
a scheme or a host, and every character that a part may not hold as its bytes in UTF-8.

* `Address.Parts`, `Address.split`: the parts of a text as they are written;
* `Address.ofParts`, `Address.parse`: an address, or why there is none;
* `Address.render`: writing;
* `Address.withQuery`, `Address.belowRoot`: addresses made from others;
* `Address.credentials?`: the user and password that an address holds.
-/

namespace Assay.Web

/-- An address. The host may be a network address without its brackets. -/
structure Address where
  scheme : List Char := []
  user : List Char := []
  host : List Char := []
  port : Option Int := none
  path : List Char := []
  query : Option (List Char) := none
  fragment : Option (List Char) := none
  deriving DecidableEq, Repr

namespace Address

/-- The parts of an address as they are written. -/
structure Parts where
  scheme : List Char
  user : List Char
  host : List Char
  port : List Char
  path : List Char
  query : Option (List Char)
  fragment : Option (List Char)
  deriving DecidableEq, Repr

/-- The text before a character, and the text after it if it is there. -/
def splitAt (at_ : Char) (s : List Char) : List Char × Option (List Char) :=
  match s.dropWhile (· != at_) with
  | [] => (s, none)
  | _ :: rest => (s.takeWhile (· != at_), some rest)

/-- The text before the last of a character and the text after it; all of the text comes after it if
it is not there. -/
def splitAtLast (at_ : Char) (s : List Char) : List Char × List Char :=
  let after := (s.reverse.takeWhile (· != at_)).reverse
  (s.take (s.length - after.length - 1), after)

/-- A character of a scheme. -/
def isSchemeChar (c : Char) : Bool :=
  c.isAlphanum || c == '+' || c == '.' || c == '-'

/-- The scheme, which starts with a letter or is empty, and what follows its colon. -/
def splitScheme (s : List Char) : List Char × List Char :=
  let name := s.takeWhile isSchemeChar
  match s.dropWhile isSchemeChar with
  | ':' :: rest => if (name.head?.map Char.isAlpha).getD true then (name, rest) else ([], s)
  | _ => ([], s)

/-- The host, which may stand in brackets, and what follows it. -/
def splitHost (s : List Char) : List Char × List Char :=
  if s.head? == some '[' && s.contains ']' then
    let (host, rest) := splitAtLast ']' s
    (host ++ [']'], rest)
  else (s.takeWhile (· != ':'), s.dropWhile (· != ':'))

/-- Cuts a text into parts. -/
def split (s : List Char) : Parts :=
  let (s, fragment) := splitAt '#' s
  let (s, query) := splitAt '?' s
  let (scheme, s) := splitScheme s
  let (authority, path) :=
    match s with
    | '/' :: '/' :: rest => (rest.takeWhile (· != '/'), rest.dropWhile (· != '/'))
    | s => ([], s)
  let (user, rest) := splitAtLast '@' authority
  let (host, rest) := splitHost rest
  let port := if rest.head? == some ':' then rest.drop 1 else rest
  { scheme, user, host, port, path, query, fragment }

/-- The longest text that is looked at. -/
def maxLength : Nat := 65536

/-- A character of ASCII that controls. -/
def isControl (c : Char) : Bool :=
  c.toNat < 32 || c.toNat == 127

/-- The first control character of a text, and its place. -/
def control? (s : List Char) : Option (Char × Nat) :=
  (s.find? isControl).map fun c => (c, (s.takeWhile fun c => !isControl c).length)

/-- A visible character of ASCII that is none of some. -/
def isVisibleBut (others : List Char) (c : Char) : Bool :=
  32 < c.toNat && c.toNat < 127 && !others.contains c

/-- What no query may hold. -/
def queryUnsafe : List Char := "\x22#<>".toList

/-- What no path may hold. -/
def pathUnsafe : List Char := queryUnsafe ++ "?`\x7b\x7d".toList

/-- What no user may hold. -/
def userUnsafe : List Char := pathUnsafe ++ "/;=@[\\]^|".toList

/-- What no fragment may hold. -/
def fragmentUnsafe : List Char := "\x22<>`".toList

/-- A character that a host in ASCII may hold. -/
def isHostChar (c : Char) : Bool :=
  isUnreserved c || "!$&'()*+,;=\x22`\x7b\x7d%|\\".toList.contains c

section

open Pattern

def digits : Pattern := atLeastOne (.oneOf "0123456789")

/-- Four numbers with any signs between them. -/
def fourNumbers : Pattern :=
  textStart ++ digits ++ one .inLine ++ digits ++ one .inLine ++ digits ++ one .inLine ++ digits ++
    textEnd

end

/-- A host in the form that is kept. -/
def hostOf (s : List Char) : Except AddressFault (List Char) :=
  let written := String.ofList s
  if (fourNumbers.search? s).isSome then
    if Network.isFourNumbers s then .ok s else .error (.ipv4 written)
  else if s.head? == some '[' && s.getLast? == some ']' then
    let inside := (s.drop 1).dropLast
    if Network.isEightGroups inside then .ok inside else .error (.ipv6 written)
  else if s.all fun c => c.toNat < 128 then .ok (escape isHostChar (s.map Char.toLower))
  else (Domain.encode (Text.lower s)).mapError fun _ => .domain written

/-- The ports that schemes imply. -/
def impliedPorts : List (String × Int) :=
  [("ftp", 21), ("http", 80), ("https", 443), ("ws", 80), ("wss", 443)]

/-- A port in the form that is kept. -/
def portOf (scheme s : List Char) : Except AddressFault (Option Int) :=
  if s.isEmpty then .ok none
  else
    match Text.readInt (String.ofList s) with
    | .error _ => .error (.port (String.ofList s))
    | .ok n => .ok (if impliedPorts.lookup (String.ofList scheme) = some n then none else some n)

/-- Whether a path may stand behind the other parts. -/
def checkPath (path : List Char) (hasScheme hasAuthority : Bool) : Except AddressFault Unit :=
  if hasAuthority then
    if path.isEmpty || path.head? == some '/' then .ok () else .error .pathStart
  else if hasScheme then .ok ()
  else if ['/', '/'].isPrefixOf path then .error .doubleSlash
  else if path.head? == some ':' then .error .leadingColon
  else .ok ()

/-- The components of a path without its dots; `done` are the components before, in reverse. -/
def withoutDots (done : List (List Char)) : List (List Char) → List (List Char)
  | [] => done.reverse
  | ['.'] :: rest => withoutDots done rest
  | ['.', '.'] :: rest => withoutDots (if done == [[]] then done else done.tail) rest
  | c :: rest => withoutDots (c :: done) rest

/-- A path without dots among its components. -/
def plainPath (path : List Char) : List Char :=
  let cs := path.splitOn '/'
  if cs.contains ['.'] || cs.contains ['.', '.'] then ['/'].intercalate (withoutDots [] cs)
  else path

/-- The address with some parts. -/
def ofParts (p : Parts) : Except AddressFault Address := do
  let user ← escapePart (isVisibleBut userUnsafe) p.user
  let host ← hostOf p.host
  let port ← portOf p.scheme p.port
  let hasScheme := !p.scheme.isEmpty
  let hasAuthority := !user.isEmpty || !host.isEmpty || port.isSome
  checkPath p.path hasScheme hasAuthority
  let path := if hasScheme || hasAuthority then plainPath p.path else p.path
  let path ← escapePart (isVisibleBut pathUnsafe) path
  let query ← p.query.mapM (escapePart (isVisibleBut queryUnsafe))
  let fragment ← p.fragment.mapM (escapePart (isVisibleBut fragmentUnsafe))
  return { scheme := p.scheme.map Char.toLower, user, host, port, path, query, fragment }

/-- Reads an address. -/
def parse (url : String) : Except AddressFault Address :=
  let s := url.toList
  if maxLength < s.length then .error .tooLong
  else
    match control? s with
    | some (c, n) => .error (.control c n)
    | none => ofParts (split s)

/-- The host and the port. -/
def place (a : Address) : List Char :=
  (if a.host.contains ':' then '[' :: a.host ++ [']'] else a.host) ++
    match a.port with
    | some n => ':' :: (toString n).toList
    | none => []

/-- The user, the host and the port. -/
def authority (a : Address) : List Char :=
  (if a.user.isEmpty then [] else a.user ++ ['@']) ++ a.place

/-- The path and the query. -/
def pathAndQuery (a : Address) : List Char :=
  a.path ++
    match a.query with
    | some q => '?' :: q
    | none => []

/-- The address written down. -/
def render (a : Address) : String :=
  String.ofList (
    (if a.scheme.isEmpty then [] else a.scheme ++ [':']) ++
    (if a.authority.isEmpty then [] else ['/', '/'] ++ a.authority) ++
    a.pathAndQuery ++
    match a.fragment with
    | some f => '#' :: f
    | none => [])

/-- Whether the address leads somewhere by itself. -/
def isAbsolute (a : Address) : Bool :=
  !a.scheme.isEmpty && !a.host.isEmpty

/-- Whether parts of an address can be put together: none is too long and none holds a control
character. -/
def checkParts : List (String × List Char) → Except AddressFault Unit
  | [] => .ok ()
  | (name, s) :: rest =>
    if maxLength < s.length then .error (.partTooLong name)
    else
      match control? s with
      | some (c, n) => .error (.partControl name c n)
      | none => checkParts rest

/-- The parts of an address by name. -/
def named (a : Address) : List (String × List Char) :=
  [("scheme", a.scheme), ("authority", a.authority), ("path", a.path)] ++
    (a.query.map fun q => ("query", q)).toList ++ (a.fragment.map fun f => ("fragment", f)).toList

/-- An address whose parts can be put together. -/
def checked (a : Address) : Except AddressFault Address := do
  checkParts a.named
  return a

/-- The address with another query. -/
def withQuery (a : Address) (parameters : List (String × String)) :
    Except AddressFault Address := do
  checked { a with query := some (escape (isVisibleBut queryUnsafe) (← queryOf parameters)) }

/-- The path and the query, below the root. -/
def belowRoot (a : Address) : Except AddressFault Address :=
  let rest := a.pathAndQuery.dropWhile (· == '/')
  checked { path := '/' :: rest.takeWhile (· != '?'), query := (splitAt '?' rest).2 }

/-- The user and the password that the address holds, as they are shown to the host. -/
def credentials? (a : Address) : Option String :=
  let (name, password) := splitAt ':' a.user
  let name := unescape name
  let password := unescape (password.getD [])
  if name.isEmpty && password.isEmpty then none
  else
    let shown := (name ++ ':' :: password).flatMap String.utf8EncodeChar
    some ("Basic " ++ String.ofList (base64 shown))

/-- The host in all its characters. -/
def hostName (a : Address) : Except LabelFault (List Char) :=
  if Domain.encodedPrefix.isPrefixOf a.host then Domain.decode a.host else .ok a.host

end Address

end Assay.Web
