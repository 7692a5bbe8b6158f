import Assay.Failure
import Assay.Text.Lower
import Assay.Text.Numeral
import Assay.Vendor.Basic
import Assay.Yaml.Value

/-!
# Configuration

A configuration is read from a table. The provider and the numbers of workers are converted and
checked when it is read; every other setting keeps the value it was written with and is checked
where it is used.

* `Configuration`: the settings and their defaults;
* `Configuration.ofDocument`: reads a document; the first fault found is the one reported;
* `Configuration.exclusions`: what is left out of an analysis;
* `Configuration.isTooLarge`: whether a file is too large for it.
-/

namespace Assay

/-- The settings of an analysis. -/
structure Configuration where
  provider : String := "gemini"
  model : Yaml := .null
  maxFileSize : Yaml := .int 1048576
  excludePatterns : Yaml := .seq []
  concurrency : Int := 8
  aiConcurrency : Int := 2
  reportsDir : Yaml := .str ".codeqa/reports"
  maxSessions : Yaml := .int 100
  evictCount : Yaml := .int 50

namespace Configuration

/-- The providers that a configuration may name; the last stands for none. -/
def providerNames : List String :=
  Vendor.all.map Vendor.name ++ ["none"]

/-- The model in use. -/
def resolvedModel (c : Configuration) : Yaml :=
  if c.model.isTruthy then c.model
  else
    match Vendor.ofName? c.provider with
    | some v => .str v.defaultModel
    | none => .null

/-- The integer that a value stands for; a number loses its fraction. -/
def toInteger : Yaml → Except Failure Int
  | .int n => .ok n
  | .bool b => .ok (if b then 1 else 0)
  | .real (.finite q) => .ok (Binary64.truncate q)
  | .real .minusZero => .ok 0
  | .real (.infinite _) => .error (.number .infinite)
  | .real .undefined => .error (.number .undefined)
  | .str s => (Text.readInt s).mapError .number
  | v => .error (.wrongType (.notNumeric v.kindName))

/-- Whether a value lies below an integer; only numbers can be compared. -/
def isBelow (v : Yaml) (n : Int) : Except Failure Bool :=
  match v.number? with
  | some x => .ok (x.isLess (.finite n))
  | none => .error (.wrongType (.unordered "<" v.kindName "int"))

/-- The provider that a table names, in lower case. -/
def providerOf (entries : List (Yaml × Yaml)) : Except Failure String :=
  let written := Yaml.entryOr entries "provider" (.str "gemini")
  let name := String.ofList (Text.lower written.plain.toList)
  if written.hasLongInteger then .error (.number .unshowable)
  else if providerNames.contains name then .ok name
  else .error (.unknownProvider name providerNames)

/-- The entries of a value that must be a table. -/
def entriesOf : Yaml → Except Failure (List (Yaml × Yaml))
  | .map es => .ok es
  | v => .error (.missingMember v.kindName "get")

/-- The limits of a store of sessions: how many it may hold and how many go at once. -/
def sessionLimitsOf (entries : List (Yaml × Yaml)) : Except Failure (Yaml × Yaml) := do
  let sessions ← entriesOf (Yaml.entryOr entries "sessions" (.map []))
  let most := Yaml.entryOr sessions "max_sessions" (.int 100)
  let evict := Yaml.entryOr sessions "evict_count" (.int 50)
  if ← isBelow most 1 then throw .sessionLimitsTooLow
  if ← isBelow evict 1 then throw .sessionLimitsTooLow
  return (most, evict)

/-- Reads a table. -/
def ofEntries (entries : List (Yaml × Yaml)) : Except Failure Configuration := do
  let provider ← providerOf entries
  let concurrency ← toInteger (Yaml.entryOr entries "concurrency" (.int 8))
  let aiConcurrency ← toInteger (Yaml.entryOr entries "ai_concurrency" (.int 2))
  if concurrency < 1 ∨ aiConcurrency < 1 then throw .workersTooFew
  let (maxSessions, evictCount) ← sessionLimitsOf entries
  return {
    provider
    model := Yaml.entryOr entries "model" .null
    maxFileSize := Yaml.entryOr entries "max_file_size" (.int 1048576)
    excludePatterns := Yaml.entryOr entries "exclude" (.seq [])
    concurrency
    aiConcurrency
    reportsDir := Yaml.entryOr entries "reports_dir" (.str ".codeqa/reports")
    maxSessions
    evictCount }

/-- Reads a document; one that is empty in any way stands for an empty table. -/
def ofDocument (document : Yaml) : Except Failure Configuration := do
  ofEntries (← entriesOf (if document.isTruthy then document else .map []))

/-- The names that are always left out. -/
def alwaysExcluded : List String :=
  ["node_modules", ".git", "__pycache__", ".venv", "venv", "dist", "build", "coverage", ".next",
   ".nuxt", "vendor", ".idea", ".vscode"]

/-- The patterns that were written; the characters of a text count as patterns. -/
def writtenPatterns (c : Configuration) : Except Failure (List Yaml) :=
  match c.excludePatterns with
  | .seq xs => .ok xs
  | .str s => .ok (s.toList.map fun c => .str (String.ofList [c]))
  | .map es => .ok (es.map (·.1))
  | v => .error (.wrongType (.notIterable v.kindName))

/-- Whether a value is one of the names that are always left out. -/
def isAlwaysExcluded : Yaml → Bool
  | .str s => alwaysExcluded.contains s
  | _ => false

/-- All that is left out: the names that always are, then the patterns written. -/
def exclusions (c : Configuration) : Except Failure (List Yaml) := do
  let written ← c.writtenPatterns
  return alwaysExcluded.map .str ++ written.filter fun p => !isAlwaysExcluded p

/-- The size above which a file is left out. -/
def sizeLimit (c : Configuration) : Yaml :=
  if c.maxFileSize.isTruthy then c.maxFileSize else .int 1048576

/-- Whether a size, a number of some kind, lies above the limit. -/
def exceedsLimit (c : Configuration) (size : FloatValue) (kind : String) : Except Failure Bool :=
  match c.sizeLimit.number? with
  | some limit => .ok (limit.isLess size)
  | none => .error (.wrongType (.unordered ">" kind c.sizeLimit.kindName))

/-- Whether a file of some bytes is too large. -/
def isTooLarge (c : Configuration) (size : Int) : Except Failure Bool :=
  c.exceedsLimit (.finite size) "int"

/-- More sessions than there will ever be. -/
def noLimit : Int := 4611686018427387904

/-- The greatest number of sessions within a limit; what is no number limits nothing. -/
def mostSessions (v : Yaml) : Int :=
  match v.number? with
  | some (.finite q) => q.floor
  | some (.infinite true) => 0
  | _ => noLimit

/-- The least number of sessions that reaches a limit; what is no number is reached at once. -/
def leastSessions (v : Yaml) : Int :=
  match v.number? with
  | some (.finite q) => q.ceil
  | some (.infinite false) => noLimit
  | _ => 0

end Configuration

end Assay
