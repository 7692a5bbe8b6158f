import Assay.Pattern.Search

/-!
# Writing patterns

The vocabulary in which the pattern tables are written. `p ++ q` is `p` followed by `q`.
-/

namespace Assay.Pattern

instance : Append Pattern := ⟨Pattern.cat⟩

/-- A text, character by character. -/
def lit (s : String) : Pattern :=
  s.toList.foldr (fun c p => cat (one (.exactly c)) p) nothing

/-- One of several patterns, the earlier preferred. -/
def anyOf : List Pattern → Pattern
  | [] => one (.compl .any)
  | [p] => p
  | p :: ps => either p (anyOf ps)

/-- One of several texts. -/
def oneOfTexts (texts : List String) : Pattern :=
  anyOf (texts.map lit)

/-- One of several words that stand on their own. -/
def wholeWord (words : List String) : Pattern :=
  boundary ++ oneOfTexts words ++ boundary

/-- As many characters of a class as there are. -/
def many (s : CharClass) : Pattern :=
  run s 0 true

/-- As many characters of a class as there are, and at least one. -/
def atLeastOne (s : CharClass) : Pattern :=
  run s 1 true

/-- Optional blanks. -/
def blanks : Pattern :=
  many .blank

/-- At least one blank. -/
def gap : Pattern :=
  atLeastOne .blank

/-- A word of at least one character. -/
def word : Pattern :=
  atLeastOne .word

/-- The rest of the line, as far as it is wanted. -/
def anything : Pattern :=
  many .inLine

/-- The pattern with its letters in either case. -/
def ignoreCase : Pattern → Pattern
  | one s => one s.ignoreCase
  | run s n g => run s.ignoreCase n g
  | cat p q => cat p.ignoreCase q.ignoreCase
  | either p q => either p.ignoreCase q.ignoreCase
  | maybe p => maybe p.ignoreCase
  | capture n p => capture n p.ignoreCase
  | p => p

end Assay.Pattern
