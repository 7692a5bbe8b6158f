import Assay.Failure
import Assay.Pattern.Build
import Assay.Text.Basic

/-!
# Names of repositories

A repository is named by its owner and its own name, either in an address or as the two with a slash
between them; an address may also name a branch.

* `RepositoryName.parse`: reads a name;
* `isAddress`, `looksLikeName`: whether a target is an address, or might be a name.
-/

namespace Assay

/-- The name of a repository, and the branch if one is named. -/
structure RepositoryName where
  owner : String
  name : String
  branch : Option String
  deriving DecidableEq, Repr

namespace RepositoryName

open Pattern

/-- The owner and the name with a slash between them. -/
def slug (r : RepositoryName) : String :=
  r.owner ++ "/" ++ r.name

/-- A part of an address. -/
def segment : Pattern :=
  atLeastOne (.noneOf "/")

/-- The host of an address, the owner and the name: groups 1 and 2. -/
def addressed : Pattern :=
  lit "github.com/" ++ capture 1 segment ++ lit "/" ++ capture 2 segment

/-- An address, with the branch as group 3. -/
def address : Pattern :=
  addressed ++ maybe (lit "/tree/" ++ capture 3 segment)

/-- A part of a name that stands alone. -/
def bareSegment : Pattern :=
  atLeastOne (.compl (.union (.exactly '/') .blank))

/-- A name that stands alone. -/
def bare : Pattern :=
  textStart ++ capture 1 bareSegment ++ lit "/" ++ capture 2 bareSegment ++ textEnd

/-- The forms of a name, in the order in which they are tried. -/
def forms : List Pattern :=
  [address, addressed ++ lit ".git", bare]

/-- The ending of an address that is no part of the name. -/
def ending : Pattern :=
  lit ".git" ++ textEnd

/-- A name without its ending. -/
def withoutEnding (s : List Char) : List Char :=
  match ending.search? s with
  | some m => s.take m.start.pos ++ m.stop.rest
  | none => s

/-- The name that a match holds. -/
def ofMatch (m : Match) : RepositoryName where
  owner := String.ofList ((m.group? 1).getD [])
  name := String.ofList (withoutEnding ((m.group? 2).getD []))
  branch := (m.group? 3).map String.ofList

/-- Reads a name; the first form that occurs counts. -/
def parse (target : String) : Except Failure RepositoryName :=
  let target := Text.trimmed target
  match forms.findSome? fun p => p.search? target.toList with
  | some m => .ok (ofMatch m)
  | none => .error (.invalidRepository target)

end RepositoryName

/-- Whether a target is an address. -/
def isAddress (target : String) : Bool :=
  Text.contains target "github.com/"

/-- Whether a target might be a name that stands alone. -/
def looksLikeName (target : String) : Bool :=
  match Text.cut (Text.trimmed target) '/' with
  | [owner, name] =>
    !owner.isEmpty && !name.isEmpty && target.toList.head? != some '.' &&
      target.toList.head? != some '/'
  | _ => false

end Assay
