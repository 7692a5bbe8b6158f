import Assay.Proofs.Outcome
import Assay.Selection.Exclusion
import Assay.Selection.SourceSet

/-!
# What becomes of a file

A file of a project is analysed, or only listed by its path, or left aside. Under settings of the
kinds they should be of, its path and its size decide.

* `Configuration.Settles`: such settings; `Settles.exclusions_eq`, `Settles.isTooLarge_eq`: no test
  of a path or a size fails under them;
* `roleOf`: what becomes of a file;
* `SourceSet.paths`: the paths of the files of a role.
-/

namespace Assay

namespace Configuration

/-- The patterns are texts, and the limit of a size is an integer. -/
structure Settles (c : Configuration) (patterns : List String) (limit : Int) : Prop where
  patterns : c.excludePatterns = .seq (patterns.map .str)
  limit : c.maxFileSize = .int limit

/-- All names and patterns that leave a path out. -/
def excludedBy (patterns : List String) : List String :=
  alwaysExcluded ++ patterns.filter fun p => !alwaysExcluded.contains p

/-- The size above which a file is too large. -/
def bound (limit : Int) : Int :=
  if limit = 0 then 1048576 else limit

variable {c : Configuration} {patterns : List String} {limit : Int}

theorem Settles.exclusions_eq (h : c.Settles patterns limit) :
    c.exclusions = .ok ((excludedBy patterns).map .str) := by
  have hfilter : (patterns.map Yaml.str).filter (fun p => !isAlwaysExcluded p) =
      (patterns.filter fun p => !alwaysExcluded.contains p).map Yaml.str := by
    rw [List.filter_map]
    rfl
  simp only [exclusions, writtenPatterns, h.patterns, ok_bind, hfilter, excludedBy,
    List.map_append]
  rfl

theorem Settles.sizeLimit_eq (h : c.Settles patterns limit) :
    c.sizeLimit = .int (bound limit) := by
  by_cases hzero : limit = 0 <;> simp [sizeLimit, h.limit, Yaml.isTruthy, bound, hzero]

theorem Settles.isTooLarge_eq (h : c.Settles patterns limit) (size : Int) :
    c.isTooLarge size = .ok (decide (bound limit < size)) := by
  rw [isTooLarge, exceedsLimit, h.sizeLimit_eq]
  simp [Yaml.number?, FloatValue.isLess, FloatValue.asNumber, Rat.intCast_lt_intCast]

end Configuration

/-- What becomes of a file that is not left aside. -/
inductive Role where
  | analysed
  /-- Known by its path only. -/
  | listed
  deriving DecidableEq

/-- What becomes of a file, if it is not left aside. -/
def roleOf (excluded : List String) (bound : Int) (path : String) (size : Nat) : Option Role :=
  if isExcluded path excluded then none
  else
    match Language.ofPath? path with
    | none => some .listed
    | some _ => if bound < size then none else some .analysed

namespace SourceSet

/-- The paths of the files of a role. -/
def paths (s : SourceSet) : Role → List String
  | .analysed => s.units.map (·.path)
  | .listed => s.otherPaths

theorem paths_append (a b : SourceSet) (k : Role) :
    (a.append b).paths k = a.paths k ++ b.paths k := by
  cases k <;> simp [paths, append]

@[simp]
theorem paths_empty (k : Role) : ({} : SourceSet).paths k = [] := by
  cases k <;> rfl

/-- A set that has a file of some path in its role, and nothing else. -/
def Places (s : SourceSet) (role : Option Role) (path : String) : Prop :=
  ∀ k, s.paths k = if role = some k then [path] else []

theorem places_none (path : String) : ({} : SourceSet).Places none path := by
  intro k
  simp

theorem places_ofUnit (u : SourceUnit) : (ofUnit u).Places (some .analysed) u.path := by
  intro k
  cases k <;> rfl

theorem places_ofOther (path : String) : (ofOther path).Places (some .listed) path := by
  intro k
  cases k <;> rfl

end SourceSet

end Assay
