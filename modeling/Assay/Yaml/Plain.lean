import Assay.Yaml.Place

/-!
# Plain scalars

A plain scalar is written without quotes. It ends before a colon that a gap follows, before a
comment, inside brackets also before a comma, a question mark or a bracket, and outside them before
a line that is indented no deeper than its surroundings. Lines are joined by a blank; an empty line
stands for a newline.

* `Plain.run`: the characters up to the next gap or end;
* `Plain.read`: a whole scalar.
-/

namespace Assay.Yaml.Plain

/-- A comma or a bracket. -/
def isDelimiter (c : Char) : Bool :=
  [',', '[', ']', '\x7b', '\x7d'].contains c

/-- Whether a value follows a colon: a gap sets it off, and inside brackets a delimiter does. -/
def setsOff (nested : Bool) (rest : List Char) : Bool :=
  gapFollows rest || (nested && (rest.head?.map isDelimiter).getD false)

/-- Whether a scalar ends before a character. -/
def stopsAt (nested : Bool) (c : Char) (rest : List Char) : Bool :=
  isGap c || (c == ':' && setsOff nested rest) || (nested && (c == '?' || isDelimiter c))

/-- The characters up to the next gap or end. -/
def run (nested : Bool) : List Char → List Char
  | [] => []
  | c :: rest => if stopsAt nested c rest then [] else c :: run nested rest

/-- What a gap stands for, and the place after it. Nothing is joined across a mark between
documents. -/
def gap (p : Place) : List Char × Place :=
  let blanks := p.rest.takeWhile (· == ' ')
  let q := p.skip blanks.length
  match q.rest with
  | c :: _ =>
    if isBreak c then
      let q := q.next
      let between := q.rest.takeWhile fun c => c == ' ' || isBreak c
      let r := q.skip between.length
      let more := (between.filter isBreak).map keptBreak
      if r.column = 0 ∧ marksDocument r.rest then ([], r)
      else if keptBreak c != '\n' then (keptBreak c :: more, r)
      else if more.isEmpty then ([' '], r)
      else (more, r)
    else (blanks, q)
  | [] => (blanks, q)

/-- What is read of a scalar: its text, the place after it, and whether a line ended there. -/
structure Reading where
  text : List Char
  place : Place
  lineEnded : Bool

/-- The run at a place, unless a comment starts there. -/
def runAt (nested : Bool) (p : Place) : List Char :=
  if p.rest.head? == some '#' then [] else run nested p.rest

/-- Reads a scalar that starts at a place. -/
def readFrom (nested : Bool) (indent : Int) : (fuel : Nat) → Place → Reading
  | 0, p => ⟨[], p, false⟩
  | fuel + 1, p =>
    let first := runAt nested p
    let q := p.skip first.length
    let (between, r) := gap q
    let ends := between.isEmpty || (runAt nested r).isEmpty || (!nested && r.column ≤ indent)
    if ends then ⟨first, r, q.line != r.line⟩
    else
      let more := readFrom nested indent fuel r
      { more with text := first ++ between ++ more.text }

/-- Reads a scalar; every run takes a character, so there are no more runs than characters. -/
def read (nested : Bool) (indent : Int) (p : Place) : Reading :=
  readFrom nested indent (p.rest.length + 1) p

end Assay.Yaml.Plain
