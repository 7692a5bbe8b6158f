import Assay.Configuration
import Assay.Path
import Assay.Selection.Glob

/-!
# What is left out

A path is left out if its ending says that it was generated, if one of its components is excluded
by name, or if an exclusion matches it as a glob.

* `isExcluded`: by some texts;
* `isExcludedBy`: by values as they were written, which must be texts as far as they are looked at.
-/

namespace Assay

/-- The endings of generated files. -/
def generatedEndings : List String :=
  [".min.js", ".bundle.js", ".pyc"]

/-- Whether a path has the ending of a generated file. -/
def isGenerated (path : String) : Bool :=
  generatedEndings.any fun e => e.toList.isSuffixOf (Path.slashed path).toList

/-- Whether an exclusion names a component of a path or matches all of it. -/
def excludes (path exclusion : String) : Bool :=
  let path := Path.slashed path
  (Text.cut path '/').contains exclusion || Glob.accepts exclusion path

/-- Whether a path is left out. -/
def isExcluded (path : String) (exclusions : List String) : Bool :=
  isGenerated path || exclusions.any (excludes path)

/-- Whether the first exclusion that applies leaves a path out. -/
def anyExcludes (path : String) : List Yaml → Except Failure Bool
  | [] => .ok false
  | .str s :: rest => if excludes path s then .ok true else anyExcludes path rest
  | v :: _ => .error (.wrongType (.notPath v.kindName))

/-- Whether a path is left out by exclusions as they were written. -/
def isExcludedBy (path : String) (exclusions : List Yaml) : Except Failure Bool :=
  if isGenerated path then .ok true else anyExcludes path exclusions

/-- Exclusions that are texts leave out what the texts do. -/
theorem isExcludedBy_str (path : String) (exclusions : List String) :
    isExcludedBy path (exclusions.map .str) = .ok (isExcluded path exclusions) := by
  have h : ∀ xs : List String, anyExcludes path (xs.map .str) = .ok (xs.any (excludes path)) := by
    intro xs
    induction xs with
    | nil => rfl
    | cons x xs ih =>
      simp only [List.map_cons, anyExcludes, List.any_cons]
      cases hx : excludes path x
      · simpa using ih
      · rfl
  unfold isExcludedBy isExcluded
  cases isGenerated path
  · simpa using h exclusions
  · rfl

end Assay
