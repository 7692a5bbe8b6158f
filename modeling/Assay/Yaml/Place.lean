import Assay.Text.Basic

/-!
# Places in a document

A place knows what follows it and where it stands: how many characters come before, in which line
and in which column.

* `isBreak`, `isGap`, `isAllowed`: classes of characters;
* `Place.next`, `Place.skip`: places further on;
* `marksDocument`: whether a line starts with a mark between documents.
-/

namespace Assay.Yaml

/-- A character that ends a line. -/
def isBreak (c : Char) : Bool :=
  c == '\n' || c == '\u0085' || c == '\u2028' || c == '\u2029'

/-- A blank or a tab. -/
def isSpacing (c : Char) : Bool :=
  c == ' ' || c == '\t'

/-- A character between words. -/
def isGap (c : Char) : Bool :=
  isSpacing c || isBreak c

/-- A character that a document may hold. -/
def isAllowed (c : Char) : Bool :=
  let n := c.toNat
  n == 0x9 || n == 0xA || n == 0xD || (0x20 ≤ n && n ≤ 0x7E) || n == 0x85 ||
    (0xA0 ≤ n && n ≤ 0xFFFD) || 0x10000 ≤ n

/-- A line break as it is kept: all those without a name of their own are newlines. -/
def keptBreak (c : Char) : Char :=
  if c == '\u2028' || c == '\u2029' then c else '\n'

/-- The mark of the order of bytes, which takes no column. -/
def byteOrderMark : Char := '\uFEFF'

/-- Whether a text goes on with a character between words or is over. -/
def gapFollows : List Char → Bool
  | [] => true
  | c :: _ => isGap c

/-- Whether a text goes on with three times a character, set off from what follows. -/
def isTriple (c : Char) (s : List Char) : Bool :=
  [c, c, c].isPrefixOf s && gapFollows (s.drop 3)

/-- Whether a text, at the start of a line, goes on with a mark between documents. -/
def marksDocument (s : List Char) : Bool :=
  isTriple '-' s || isTriple '.' s

/-- A place in a document. -/
structure Place where
  rest : List Char
  index : Nat := 0
  line : Nat := 0
  column : Nat := 0
  deriving Repr

namespace Place

/-- The place after the next character. -/
def next (p : Place) : Place :=
  match p.rest with
  | [] => p
  | c :: rest =>
    if isBreak c then ⟨rest, p.index + 1, p.line + 1, 0⟩
    else ⟨rest, p.index + 1, p.line, if c == byteOrderMark then p.column else p.column + 1⟩

/-- The place some characters further on. -/
def skip (p : Place) : Nat → Place
  | 0 => p
  | n + 1 => p.next.skip n

/-- The number of characters before the next thing that means something: blanks, line breaks and
comments, which start with a hash sign and end with their line. -/
def idleLength (inComment : Bool) : List Char → Nat
  | [] => 0
  | c :: rest =>
    if isBreak c then idleLength false rest + 1
    else if inComment || c == ' ' then idleLength inComment rest + 1
    else if c == '#' then idleLength true rest + 1
    else 0

/-- The place of the next thing that means something. -/
def skipIdle (p : Place) : Place :=
  let p := if p.index = 0 ∧ p.rest.head? = some byteOrderMark then p.next else p
  p.skip (idleLength false p.rest)

end Place

end Assay.Yaml
