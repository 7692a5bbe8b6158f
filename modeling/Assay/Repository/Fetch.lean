import Assay.Repository.Name
import Assay.Repository.Server
import Assay.Selection.Exclusion
import Assay.Selection.SourceSet
import Assay.Text.Numeral

/-!
# Fetching the files of a repository

A repository is read directory by directory through the listings of its server. What a listing
says is not checked before it is used: a value of the wrong kind is a failure at the place that
needs another.

* `RepositoryName.fetch`: the files of a repository;
* `list`: one listing;
* `walk`: the files below the items of a listing.
-/

namespace Assay

open Web (Connection Response)

namespace RepositoryName

/-- Where documents about repositories are found. -/
def service : String := "https://api.github.com"

def defaultBranch : String := "main"

/-- The branch that is tried when the default one is missing. -/
def fallbackBranch : String := "master"

/-- Where the document about a repository is found. -/
def documentAddress (r : RepositoryName) : String :=
  service ++ "/repos/" ++ r.slug

/-- The texts that a branch has in a query. -/
def branchValues : Json → List String
  | .bool b => [if b then "true" else "false"]
  | .null => [""]
  | .arr xs => xs.map fun
    | .bool b => if b then "true" else "false"
    | .null => ""
    | v => v.plain
  | v => [v.plain]

/-- Where the listing of a directory is found. -/
def listingAddress (r : RepositoryName) (path : String) : String :=
  r.documentAddress ++ "/contents" ++ if path.isEmpty then "" else "/" ++ path

/-- The query for a branch. -/
def branchQuery (branch : Json) : List (String × String) :=
  (branchValues branch).map fun v => ("ref", v)

/-- The branch that the server names, or the default one where it names none. -/
def namedBranch (r : Response) : Except Failure Json :=
  if r.status != 200 then .ok (.str defaultBranch)
  else
    match r.json with
    | .error e => .error e
    | .ok (.obj fields) =>
      let named := (Json.obj fields).field "default_branch"
      .ok (if named.isTruthy then named else .str defaultBranch)
    | .ok v => .error (.missingMember v.kindName "get")

/-- The default branch of a repository. -/
def serverBranch (c : Connection) (r : RepositoryName) : Trail Json :=
  let asked : Trail Json := do
    let response ← c.document r.documentAddress none
    .ofExcept (namedBranch response)
  asked.recover fun
    | .requestFailed m => some do
      let reason := (Failure.requestFailed m).message
      Trail.warn s!"Failed to get default branch, using {defaultBranch}: {reason}"
      return .str defaultBranch
    | _ => none

/-- When the limit of requests is lifted. -/
def resetTime (r : Response) : Except Failure String :=
  match (r.header? "X-RateLimit-Reset").filter fun v => !v.isEmpty with
  | none => .ok "unknown"
  | some v =>
    match Text.readInt v with
    | .ok n => timeOfDay n
    | .error e => .error (.number e)

/-- The items of a listing; a document that is no list is its only item. -/
def itemsOf (r : Response) : Except Failure (List Json) :=
  if r.status = 404 then .error .repositoryNotFound
  else if r.status = 403 then do throw (.rateLimited (← resetTime r))
  else if r.status != 200 then .error (.serviceStatus r.status (Web.reasonPhrase r.status))
  else do
    match ← r.json with
    | .arr items => return items
    | v => return [v]

/-- The listing of a directory. -/
def list (c : Connection) (r : RepositoryName) (path : String) (branch : Json) :
    Trail (List Json) := do
  let response ← c.document (r.listingAddress path) (branchQuery branch)
  .ofExcept (itemsOf response)

/-- The text of a file. -/
def download (c : Connection) (url : Json) : Trail String :=
  match url with
  | .str url => do
    let response ← c.file url
    if response.status = 200 then .ofExcept response.text
    else .fail (.downloadStatus response.status)
  | v => .fail (.wrongType (.notAddress v.kindName v.shown))

/-- The text of the file of an item, if it can be had. -/
def content (c : Connection) (item : Json) (path : String) : Trail (Option String) :=
  let asked : Trail (Option String) := do
    match item.field? "download_url" with
    | some url => return some (← download c url)
    | none => .fail (.missingField "download_url")
  asked.recover fun e =>
    match e with
    | .missingField _ => skipped e
    | e => if e.isFetch then skipped e else none
where
  skipped (e : Failure) : Option (Trail (Option String)) :=
    some do
      Trail.warn s!"Failed to fetch file {path}: {e.message}"
      return none

/-- The path of an item, or else its name. -/
def pathOf (item : Json) : Json :=
  let path := item.field "path"
  if path.isTruthy then path else (item.field? "name").getD (.str "")

/-- Whether the path of an item is left out; only a text can be. -/
def isLeftOut (path : Json) (exclusions : List Yaml) : Except Failure Bool :=
  match path with
  | .str s => isExcludedBy s exclusions
  | v => .error (.missingMember v.kindName "replace")

/-- Whether the name of an item starts with a dot; only a text can. -/
def isHidden (item : Json) : Except Failure Bool :=
  match (item.field? "name").getD (.str "") with
  | .str s => .ok (s.toList.head? == some '.')
  | v => .error (.missingMember v.kindName "startswith")

/-- The size that a listing gives, where a missing one counts as zero. -/
def sizeOf (item : Json) : Json :=
  let size := item.field "size"
  if size.isTruthy then size else .int 0

/-- Whether an item is too large; only a number can be. -/
def isTooLarge (c : Configuration) (size : Json) : Except Failure Bool :=
  match size.number? with
  | some x => c.exceedsLimit x size.kindName
  | none => .error (.wrongType (.unordered ">" size.kindName c.sizeLimit.kindName))

/-- The size of a unit: the one listed, or else that of its text. -/
def unitSize (size : Json) (content : String) : Except Failure FileSize :=
  match size with
  | .int n => if n = 0 then measured else .ok (.bytes n)
  | .real x => if x.isNonzero then .ok (.fraction x) else measured
  | .bool true => .ok .unstated
  | _ => measured
where
  measured : Except Failure FileSize :=
    match Text.NarrowEncoding.utf8.fault? content.toList with
    | some f => .error (.unencodable f)
    | none => .ok (.bytes content.utf8ByteSize)

/-- The file of an item. -/
def fileOf (c : Connection) (config : Configuration) (exclusions : List Yaml) (item : Json) :
    Trail SourceSet := do
  let path := pathOf item
  if ← .ofExcept (isLeftOut path exclusions) then return {}
  let path := path.asString?.getD ""
  match Language.ofPath? path with
  | none => return .ofOther path
  | some language =>
    let size := sizeOf item
    if ← .ofExcept (isTooLarge config size) then
      Trail.debug s!"Skipping oversized file {path}"
      return {}
    else
      match ← content c item path with
      | none => return {}
      | some text =>
        let size ← .ofExcept (unitSize size text)
        return .ofUnit ⟨path, text, language, size⟩

/-- How deep directories may be nested. -/
def maxNesting : Nat := 900

mutual

/-- The files below an item. -/
def walkItem (c : Connection) (config : Configuration) (exclusions : List Yaml)
    (r : RepositoryName) (branch : Json) (depth : Nat) (item : Json) : Trail SourceSet :=
  match item with
  | .obj _ =>
    match item.field "type" with
    | .str "dir" => do
      let path := pathOf item
      if ← .ofExcept (isHidden item) then return {}
      if ← .ofExcept (isLeftOut path exclusions) then return {}
      match depth with
      | 0 => .fail .nestedTooDeep
      | depth + 1 =>
        let items ← list c r (path.asString?.getD "") branch
        walk c config exclusions r branch depth items
    | .str "file" => fileOf c config exclusions item
    | _ => pure {}
  | v => .fail (.missingMember v.kindName "get")
termination_by (depth, 0, 0)

/-- The files below the items of a listing. -/
def walk (c : Connection) (config : Configuration) (exclusions : List Yaml)
    (r : RepositoryName) (branch : Json) (depth : Nat) (items : List Json) : Trail SourceSet :=
  match items with
  | [] => pure {}
  | item :: rest => do
    let first ← walkItem c config exclusions r branch depth item
    let others ← walk c config exclusions r branch depth rest
    return first.append others
termination_by (depth, 1, items.length)

end

/-- The listing of the root, and the branch that it was found on. -/
def root (c : Connection) (r : RepositoryName) (branch : Json) : Trail (Json × List Json) :=
  let asked : Trail (Json × List Json) := do
    return (branch, ← list c r "" branch)
  asked.recover fun
    | .repositoryNotFound =>
      if branch.asString? == some defaultBranch then some do
        Trail.info s!"Branch {defaultBranch} not found, trying {fallbackBranch}"
        return (.str fallbackBranch, ← list c r "" (.str fallbackBranch))
      else none
    | _ => none

/-- The branch to read: the one named, or else the default one. -/
def branchOf (c : Connection) (r : RepositoryName) : Trail Json :=
  match r.branch with
  | some b => pure (.str b)
  | none => serverBranch c r

/-- The files of a repository, in the order of their paths. -/
def fetchNamed (c : Connection) (config : Configuration) (r : RepositoryName) :
    Trail SourceSet := do
  let branch ← branchOf c r
  let (branch, items) ← root c r branch
  let found ←
    match items with
    | [] => (do
      let _ ← Trail.ofExcept config.exclusions
      pure {} : Trail SourceSet)
    | items => do
      let exclusions ← .ofExcept config.exclusions
      walk c config exclusions r branch maxNesting items
  let origin := r.slug ++ "@" ++ branch.plain
  Trail.info s!"Fetched {found.units.length} source file(s) from {origin}"
  return {
    units := found.units.mergeSort fun a b => !decide (b.path < a.path)
    otherPaths := found.otherPaths.mergeSort fun a b => !decide (b < a)
    origin }

/-- The files of the repository that a target names. -/
def fetch (c : Connection) (config : Configuration) (target : String) : Trail SourceSet := do
  let r ← .ofExcept (parse target)
  fetchNamed c config r

end RepositoryName

end Assay
