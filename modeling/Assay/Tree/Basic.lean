import Assay.Failure
import Assay.Path

/-!
# File trees

A tree of files as data: the files and directories by the components of their paths. A directory
also exists if something lies below it.

* `FileTree.entryAt`: what is at some components;
* `FileTree.resolve`: the components that a path leads to, two dots included;
* `FileTree.read`: the bytes of a file, or why there are none;
* `FileTree.filesBelow`: the files below a directory, in the order of their components.
-/

namespace Assay

/-- What a path can lead to. -/
inductive Entry where
  | file (bytes : List UInt8)
  | directory
  deriving DecidableEq, Repr

/-- A tree of files. -/
structure FileTree where
  entries : List (List String × Entry)

namespace FileTree

/-- What is at some components. -/
def entryAt (t : FileTree) (place : List String) : Option Entry :=
  match t.entries.lookup place with
  | some e => some e
  | none =>
    if place.isEmpty || t.entries.any fun (p, _) => place.isPrefixOf p then some .directory
    else none

/-- Follows components from a directory on. -/
def follow (t : FileTree) (directory : List String) : List String → Except ReadFault (List String)
  | [] => .ok directory
  | ".." :: rest =>
    if directory.isEmpty then .error .missing else follow t directory.dropLast rest
  | c :: rest =>
    match t.entryAt (directory ++ [c]) with
    | none => .error .missing
    | some .directory => follow t (directory ++ [c]) rest
    | some (.file _) => if rest.isEmpty then .ok (directory ++ [c]) else .error .notDirectory

/-- The components that a path leads to. There is nothing at absolute paths. -/
def resolve (t : FileTree) (path : String) : Except ReadFault (List String) :=
  if Path.isAbsolute path then .error .missing else t.follow [] (Path.components path)

/-- What a path leads to. -/
def entry (t : FileTree) (path : String) : Except ReadFault Entry := do
  let place ← t.resolve path
  match t.entryAt place with
  | some e => return e
  | none => throw .missing

/-- Whether a path leads anywhere. -/
def hasPath (t : FileTree) (path : String) : Bool :=
  (t.entry path).toBool

/-- The bytes of a file. -/
def read (t : FileTree) (path : String) : Except ReadFault (List UInt8) := do
  match ← t.entry path with
  | .file bytes => return bytes
  | .directory => throw .isDirectory

/-- What remains of some components after others that they start with. -/
def relativeTo? : List String → List String → Option (List String)
  | [], place => some place
  | d :: ds, c :: place => if d == c then relativeTo? ds place else none
  | _ :: _, [] => none

/-- Whether the first of two lists of components comes first. -/
def placeBefore (a b : List String) : Bool :=
  match a, b with
  | [], _ => true
  | _ :: _, [] => false
  | x :: xs, y :: ys => if x == y then placeBefore xs ys else x < y

/-- The files below a directory, by the components that lead to them from there. -/
def filesBelow (t : FileTree) (directory : List String) : List (List String × List UInt8) :=
  let found := t.entries.filterMap fun (place, e) =>
    match e, relativeTo? directory place with
    | .file bytes, some rest => if rest.isEmpty then none else some (rest, bytes)
    | _, _ => none
  found.mergeSort fun a b => placeBefore a.1 b.1

/-- Whether a directory is at a path or can be made there, along with those above it. -/
def canHold (t : FileTree) (path : String) : Except Failure Unit :=
  match t.entry path with
  | .ok .directory => .ok ()
  | .ok (.file _) => .error (.system .occupied (Path.normal path))
  | .error .notDirectory => .error (.system .notDirectory (Path.normal path))
  | .error _ => .ok ()

end FileTree

end Assay
