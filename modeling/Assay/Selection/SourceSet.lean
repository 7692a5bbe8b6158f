import Assay.SourceUnit

/-!
# Source sets

What an analysis works on: the files to analyse, the paths of other files of the project, and where
all of them come from.
-/

namespace Assay

/-- The files of a project. -/
structure SourceSet where
  units : List SourceUnit := []
  /-- The paths of files that are not analysed. -/
  otherPaths : List String := []
  /-- Where the files come from. -/
  origin : String := ""
  deriving DecidableEq, Repr

namespace SourceSet

/-- The files of two sets together, from the origin of the first. -/
def append (a b : SourceSet) : SourceSet :=
  ⟨a.units ++ b.units, a.otherPaths ++ b.otherPaths, a.origin⟩

/-- The set of one file. -/
def ofUnit (u : SourceUnit) : SourceSet :=
  { units := [u] }

/-- The set of one file that is not analysed. -/
def ofOther (path : String) : SourceSet :=
  { otherPaths := [path] }

end SourceSet

end Assay
