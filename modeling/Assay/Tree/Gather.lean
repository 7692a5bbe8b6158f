import Assay.Selection.Exclusion
import Assay.Selection.SourceSet
import Assay.Text.Encoding.Unicode
import Assay.Trail
import Assay.Tree.Basic

/-!
# Gathering the files of a tree

* `SourceUnit.ofBytes`: a file as a unit, its text read as UTF-8;
* `FileTree.unit`: the unit of one path;
* `FileTree.gather`: the files below a directory that are neither left out nor too large, in the
  order of their components; a path to a file stands for that file alone.
-/

namespace Assay

/-- A file of a language as a unit, sized by its bytes. -/
def SourceUnit.ofBytes (path : String) (l : Language) (bytes : List UInt8) : SourceUnit where
  path := path
  content := String.ofList (Text.unifyNewlines (Text.decode bytes))
  language := l
  size := .bytes bytes.length

namespace FileTree

/-- The unit of a path, under a name of its own if one is given. -/
def unit (t : FileTree) (path : String) (name : Option String) : Except Failure SourceUnit :=
  let given := name.getD ""
  let name := if given.isEmpty then Path.name path else given
  match Language.ofPath name with
  | .error e => .error e
  | .ok l =>
    match t.read path with
    | .ok bytes => .ok (.ofBytes name l bytes)
    | .error fault => .error (.unreadable (Path.normal path) fault)

/-- What a file adds to a source set. -/
def select (c : Configuration) (exclusions : List Yaml) (path : String) (bytes : List UInt8) :
    Trail SourceSet := do
  if ← .ofExcept (isExcludedBy path exclusions) then return {}
  match Language.ofPath? path with
  | none => return .ofOther path
  | some l =>
    if ← .ofExcept (c.isTooLarge bytes.length) then
      Trail.debug s!"Skipping oversized file {path}"
      return {}
    else return .ofUnit (.ofBytes path l bytes)

/-- What some files add to a source set. -/
def selectAll (c : Configuration) (exclusions : List Yaml) :
    List (List String × List UInt8) → Trail SourceSet
  | [] => pure {}
  | (place, bytes) :: rest => do
    let first ← select c exclusions (Text.join "/" place) bytes
    let others ← selectAll c exclusions rest
    return first.append others

/-- The files below a directory. -/
def gatherBelow (t : FileTree) (c : Configuration) (root : String) : Trail SourceSet := do
  let exclusions ← .ofExcept c.exclusions
  let place ← .ofExcept ((t.resolve root).mapError fun _ => .noSuchPath (Path.normal root))
  let found ← selectAll c exclusions (t.filesBelow place)
  Trail.info s!"Gathered {found.units.length} source file(s) from {Path.normal root}"
  return { found with origin := Path.normal root }

/-- The files that a path stands for. -/
def gather (t : FileTree) (c : Configuration) (root : String) : Trail SourceSet :=
  match t.entry root with
  | .error _ => .fail (.noSuchPath (Path.normal root))
  | .ok .directory => t.gatherBelow c root
  | .ok (.file _) => do
    let u ← .ofExcept (t.unit root none)
    return { units := [u], origin := Path.normal root }

end FileTree

end Assay
