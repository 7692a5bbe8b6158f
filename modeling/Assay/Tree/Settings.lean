import Assay.Configuration
import Assay.Tree.Basic
import Assay.Yaml.Reader

/-!
# The configuration of a tree

The settings of a project stand in a file of its tree. Without the file the defaults hold.
-/

namespace Assay.FileTree

/-- Where the settings stand unless another file is named. -/
def settingsPath : String := "codeqa.yml"

/-- The configuration that a file holds. -/
def configuration (t : FileTree) (path : String) : Except Failure Configuration :=
  match t.entry path with
  | .error _ => .ok {}
  | .ok .directory => .error (.system .isDirectory (Path.normal path))
  | .ok (.file bytes) => do
    Configuration.ofDocument (← Yaml.read (← Yaml.Source.ofBytes bytes))

end Assay.FileTree
