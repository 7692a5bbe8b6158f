import Assay.Trail
import Assay.Web.Address
import Assay.Web.Message
import Assay.Web.Status

/-!
# Connections

* `Answer`: how a request ends;
* `Connection`: a server as its callers see it, a function from addresses to answers;
* `checkRedirection`: whether the place that a response names is an address;
* `Connection.get`: one request.
-/

namespace Assay.Web

/-- How a request ends. -/
inductive Answer where
  /-- Nothing came back. -/
  | lost (message : String)
  | message (m : Message)
  deriving Repr

/-- A server, and the token that is shown to it. -/
structure Connection where
  answer : String → Answer
  token : Option String

/-- The host of an address in all its characters. -/
def fullHost (a : Address) : Except Failure (List Char) :=
  a.hostName.mapError .badLabel

/-- A host as it stands in an address, where colons need brackets. -/
def bracketed (host : List Char) : List Char :=
  if host.contains ':' then '[' :: host ++ [']'] else host

/-- An address without a host, at the host of another. -/
def Address.withHost (a : Address) (host : List Char) : Except AddressFault Address := do
  Address.checkParts (a.named ++ [("host", bracketed host)])
  Address.ofParts {
    scheme := a.scheme, user := a.user, host := bracketed host
    port := (a.port.map fun n => (toString n).toList).getD []
    path := a.path, query := a.query, fragment := a.fragment }

/-- Whether a place is an address, seen from the address that was requested: one that has a scheme
only is at the same host, and the fragment is kept if the place has none. -/
def checkPlace (requested : Address) (place : String) : Except Failure Unit := do
  let a ← (Address.parse place).mapError fun f =>
    .requestFailed s!"Invalid URL in location header: {f.message}."
  let a ←
    if a.scheme.isEmpty then pure a
    else do
      let host ← fullHost a
      if !host.isEmpty then pure a
      else (a.withHost (← fullHost requested)).mapError .ofAddress
  let kept := unescape (requested.fragment.getD [])
  if !kept.isEmpty && (a.fragment.getD []).isEmpty then
    let _ ← (Address.checked { a with fragment := some kept }).mapError .ofAddress
  let _ ← fullHost a

/-- Whether the place that a response sends the client to is an address. The client does not go
there. -/
def checkRedirection (requested : Address) (r : Response) : Except Failure Unit :=
  match r.header? "Location" with
  | some place => if isRedirection r.status then checkPlace requested place else .ok ()
  | none => .ok ()

namespace Connection

/-- The name under which requests are made. -/
def agent : String := "codeqa"

/-- What is shown to the server, if there is a token. -/
def credentials (c : Connection) : Option String :=
  (c.token.filter fun t => !t.isEmpty).map ("token " ++ ·)

/-- The address that a text and a query name. A text that leads nowhere by itself is taken below the
root. -/
def addressOf (c : Connection) (url : String) (query : Option (List (String × String))) :
    Except Failure Address := do
  let a ← (Address.parse url).mapError .ofAddress
  let a ← if a.isAbsolute then pure a else a.belowRoot.mapError .ofAddress
  checkAscii (c.credentials.getD "")
  let a ←
    match query with
    | some q => (a.withQuery q).mapError .ofAddress
    | none => pure a
  let _ ← fullHost a
  checkAscii (String.ofList a.place)
  return a

/-- Requests an address, asking for a kind of document. A response from an address without a scheme
is of no use. -/
def get (c : Connection) (url : String) (query : Option (List (String × String)))
    (accept : String) : Trail Response := do
  let a ← .ofExcept (c.addressOf url query)
  let authorization := a.credentials?.or c.credentials
  .emit (.request { url := a.render, accept, authorization, agent })
  match c.answer a.render with
  | .lost message => .fail (.requestFailed message)
  | .message m =>
    let r ← .ofExcept m.receive
    if !a.isAbsolute then .fail (.unknownScheme a.render)
    else do
      .ofExcept (checkRedirection a r)
      return r

end Connection

end Assay.Web
