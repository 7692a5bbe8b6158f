import Assay.Text.Basic
import Assay.Text.Lower

/-!
# Paths

A path is a string of components between slashes. Empty components and single dots mean nothing;
two dots are kept, since they name a parent only once the tree is known.

* `Path.components`: the components that mean something;
* `Path.normal`: the path written with exactly those;
* `Path.name`, `Path.suffix`: the last component and its extension;
* `Path.child`: a path below another;
* `Path.shortest`: a path without two dots.
-/

namespace Assay.Path

/-- The components of a path. -/
def components (path : String) : List String :=
  (Text.cut path '/').filter fun c => !c.isEmpty && c != "."

def isAbsolute (path : String) : Bool :=
  path.toList.head? == some '/'

/-- The leading slashes that a path keeps: exactly two stay two. -/
def root (path : String) : String :=
  match path.toList with
  | '/' :: '/' :: '/' :: _ => "/"
  | '/' :: '/' :: _ => "//"
  | '/' :: _ => "/"
  | _ => ""

/-- A path without what means nothing in it; the empty path is a dot. -/
def normal (path : String) : String :=
  let s := root path ++ Text.join "/" (components path)
  if s.isEmpty then "." else s

/-- The last component. -/
def name (path : String) : String :=
  (components path).getLast?.getD ""

/-- The extension of a name: from its last dot on, unless the dot comes first or last. -/
def extension (name : List Char) : List Char :=
  let after := (name.reverse.takeWhile (· != '.')).reverse
  let stem := name.length - after.length - 1
  if name.contains '.' && 0 < stem && !after.isEmpty then '.' :: after else []

/-- The extension of a path. -/
def suffix (path : String) : List Char :=
  extension (name path).toList

/-- A path with forward slashes for backward ones. -/
def slashed (path : String) : String :=
  String.ofList (path.toList.map fun c => if c == '\\' then '/' else c)

/-- A path below a directory. -/
def child (dir path : String) : String :=
  let s := root dir ++ Text.join "/" (components dir ++ components path)
  if s.isEmpty then "." else s

/-- Components without their two dots, each of which takes back the one before. -/
def withoutParents (done : List String) : List String → List String
  | [] => done.reverse
  | ".." :: rest => withoutParents done.tail rest
  | c :: rest => withoutParents (c :: done) rest

/-- The shortest path to the same place. -/
def shortest (path : String) : String :=
  Text.join "/" (withoutParents [] (components path))

end Assay.Path
