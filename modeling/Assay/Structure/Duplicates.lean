import Assay.Issue

/-!
# Duplicated blocks

A block is a window of consecutive lines, compared by its text without blanks at the ends. Two
windows of one file are duplicates when they have the same text, that text is long enough, and at
least one line lies between them. The length of a window may be negative; its end and the starts of
the other windows are then counted from the end of the file where they fall before its start.

* `DuplicateBlock.windowTexts`: the text of the window at every start;
* `DuplicateBlock.inLines`: one block for every pair of duplicate windows, ordered by the first
  start and then by the second;
* `DuplicateBlock.issues`: one issue for every block.
-/

namespace Assay

/-- Two windows with one text; lines count from one and both ends are included. -/
structure DuplicateBlock where
  startLine : Int
  endLine : Int
  duplicateStart : Int
  duplicateEnd : Int
  content : String
  deriving DecidableEq, Repr

namespace DuplicateBlock

/-- The number of lines of a window. -/
def defaultWindow : Int := 5

/-- How long the text of a window must be. -/
def defaultMinChars : Int := 50

/-- The lines from a start up to an end, which counts from the last line if it is negative. -/
def slice (lines : List (List Char)) (start : Nat) (stop : Int) : List (List Char) :=
  let stop := if stop < 0 then stop + lines.length else stop
  (lines.drop start).take (stop - start).toNat

/-- The text of the window at every start. -/
def windowTexts (window : Int) (lines : List (List Char)) : List String :=
  (List.range (lines.length + 1 - window).toNat).map fun s =>
    String.ofList (Text.strip (['\n'].intercalate (slice lines s (s + window))))

/-- The block of the windows that start at two indices. -/
def ofStarts (window i j : Int) (content : String) : DuplicateBlock :=
  ⟨i + 1, i + window, j + 1, j + window, content⟩

/-- The pairs of equal texts in a list of texts with their starts. -/
def pairs (window : Nat) (minChars : Int) : List (String × Nat) → List DuplicateBlock
  | [] => []
  | (text, i) :: rest =>
    (if (text.length : Int) < minChars then []
     else (rest.drop window).filterMap fun (other, j) =>
      if other == text then some (ofStarts window i j text) else none) ++
      pairs window minChars rest

/-- The texts from a start on; those before the first count from the last. -/
def textsFrom (texts : List (String × Nat)) (start : Int) : List (String × Int) :=
  let before : List (String × Int) :=
    if start < 0 then
      (texts.drop (texts.length + start).toNat).map fun (t, j) => (t, (j : Int) - texts.length)
    else []
  before ++ (texts.drop start.toNat).map fun (t, j) => (t, (j : Int))

/-- The pairs of equal texts where windows have a negative length. -/
def backwardPairs (window minChars : Int) (texts : List (String × Nat)) : List DuplicateBlock :=
  texts.flatMap fun (text, i) =>
    if (text.length : Int) < minChars then []
    else
      (textsFrom texts (i + window + 1)).filterMap fun (other, j) =>
        if other == text then some (ofStarts window i j text) else none

/-- Every pair of duplicate windows. -/
def inLines (window minChars : Int) (lines : List (List Char)) : List DuplicateBlock :=
  let texts := (windowTexts window lines).zipIdx
  if 0 ≤ window then pairs window.toNat minChars texts else backwardPairs window minChars texts

/-- The issue about a block, which is the `n`-th of its file. -/
def toIssue (path : String) (b : DuplicateBlock) (n : Nat) : Issue where
  id := s!"duplicate-block:{path}:{b.startLine}:{b.duplicateStart}:{n}"
  kind := .duplication
  severity := .low
  title := "Duplicated Code Block"
  description := s!"Lines {b.startLine}-{b.endLine} are repeated at lines " ++
    s!"{b.duplicateStart}-{b.duplicateEnd}."
  file := path
  line := some b.startLine
  suggestion := "Extract the repeated block into a shared function."
  impact := "Duplicated logic must be fixed in several places and drifts over time."
  effort := .low

/-- The issues about the blocks of one file. -/
def issues (path : String) (blocks : List DuplicateBlock) : List Issue :=
  blocks.zipIdx.map fun (b, n) => b.toIssue path n

end DuplicateBlock

end Assay
