import Assay.Structure.Duplicates
import Assay.Structure.Vocabulary

/-!
# Structural metrics of a file

`FileMetrics.ofUnit` measures one file: its lines of code and of comment, its decisions, its
declarations, the names it takes from elsewhere and gives away, and its duplicated blocks.
-/

namespace Assay

/-- The measurements of one file. -/
structure FileMetrics where
  path : String
  linesOfCode : Nat
  /-- The number of decisions and one. -/
  cyclomaticComplexity : Nat
  functionCount : Nat
  classCount : Nat
  commentLines : Nat
  duplicateBlocks : List DuplicateBlock
  imports : List String
  exports : List String
  deriving DecidableEq, Repr

namespace FileMetrics

/-- The lines that are neither blank nor comments. -/
def countCode (u : SourceUnit) : Nat :=
  u.lines.countP fun line =>
    let line := Text.strip line
    !line.isEmpty && !u.language.isComment line

/-- The lines that are comments. -/
def countComments (u : SourceUnit) : Nat :=
  u.lines.countP fun line => u.language.isComment (Text.strip line)

/-- Measures a file. -/
def ofUnit (u : SourceUnit) : FileMetrics where
  path := u.path
  linesOfCode := countCode u
  cyclomaticComplexity := u.language.decisionCount u.text + 1
  functionCount := Language.countIn u.language.functions? u.text
  classCount := Language.countIn u.language.classes? u.text
  commentLines := countComments u
  duplicateBlocks :=
    DuplicateBlock.inLines DuplicateBlock.defaultWindow DuplicateBlock.defaultMinChars u.lines
  imports := Language.namesIn u.language.imports? u.text
  exports := Language.namesIn u.language.exports? u.text

end FileMetrics

end Assay
