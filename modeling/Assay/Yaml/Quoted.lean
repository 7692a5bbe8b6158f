import Assay.Text.Numeral
import Assay.Yaml.Place

/-!
# Quoted scalars

Between single quotes a quote is written twice. Between double quotes a backslash starts an escape,
and before a line break it joins the lines. In both, blanks around a line break are dropped, one
line break stands for a blank, and more of them for one newline less than their number.

* `Quoted.Part`, `Quoted.parts`: the text up to the closing quote, with its escapes resolved; of two
  faults the first in the text is the one reported;
* `Quoted.joined`: the text with its lines joined;
* `Quoted.read`: a whole scalar.
-/

namespace Assay.Yaml.Quoted

/-- A part of a quoted text. -/
inductive Part where
  | char (c : Char)
  /-- A blank or a tab as it is written. -/
  | spacing (c : Char)
  | lineBreak (c : Char)
  /-- A line break that joins the lines around it. -/
  | join
  deriving DecidableEq, Repr

/-- A character as it is written. -/
def plainPart (c : Char) : Part :=
  if isBreak c then .lineBreak c else if isSpacing c then .spacing c else .char c

/-- The characters with an escape of one letter. -/
def letters : List (Char × Char) :=
  [('0', '\x00'), ('a', '\x07'), ('b', '\x08'), ('t', '\t'), ('\t', '\t'), ('n', '\n'),
   ('v', '\x0b'), ('f', '\x0c'), ('r', '\r'), ('e', '\x1b'), (' ', ' '), ('\x22', '\x22'),
   ('\\', '\\'), ('/', '/'), ('N', '\u0085'), ('_', '\u00a0'), ('L', '\u2028'), ('P', '\u2029')]

/-- The letters of escapes by code, and how many digits those have. -/
def codeLengths : List (Char × Nat) :=
  [('x', 2), ('u', 4), ('U', 8)]

/-- The character of a code. -/
def ofCode (n : Nat) : Except Failure Char :=
  if n < 0x110000 then .ok (Text.charOf n)
  else if n < 0x80000000 then .error .notCharacter
  else .error .codeTooLarge

/-- A line break, after which no mark between documents may stand. -/
def lineBreak (part : Part) (rest : List Char) : Except Failure Part :=
  if marksDocument rest then .error .malformedYaml else .ok part

/-- The text between double quotes in parts, and what follows the closing quote. Inside an escape by
code, `owed` digits are still to come and `code` is the value of those before. A text without a
closing quote fails with `ending`. -/
def doubleParts (ending : Failure) :
    (owed code : Nat) → List Char → Except Failure (List Part × List Char)
  | _, _, [] => .error ending
  | owed + 1, code, c :: rest =>
    match Text.hexValue? c with
    | none => .error .malformedYaml
    | some d =>
      let code := 16 * code + d
      if owed = 0 then do
        let c ← ofCode code
        let (parts, after) ← doubleParts ending 0 0 rest
        return (.char c :: parts, after)
      else doubleParts ending owed code rest
  | 0, _, '\x22' :: rest => .ok ([], rest)
  | 0, _, ['\\'] => .error ending
  | 0, _, '\\' :: c :: rest =>
    match letters.lookup c, codeLengths.lookup c with
    | some d, _ => do
      let (parts, after) ← doubleParts ending 0 0 rest
      return (.char d :: parts, after)
    | none, some n => doubleParts ending n 0 rest
    | none, none =>
      if isBreak c then do
        let part ← lineBreak .join rest
        let (parts, after) ← doubleParts ending 0 0 rest
        return (part :: parts, after)
      else .error .malformedYaml
  | 0, _, c :: rest => do
    let part ← if isBreak c then lineBreak (plainPart c) rest else pure (plainPart c)
    let (parts, after) ← doubleParts ending 0 0 rest
    return (part :: parts, after)

/-- The text between single quotes in parts, and what follows the closing quote. -/
def singleParts (ending : Failure) : List Char → Except Failure (List Part × List Char)
  | [] => .error ending
  | '\x27' :: '\x27' :: rest => do
    let (parts, after) ← singleParts ending rest
    return (.char '\x27' :: parts, after)
  | '\x27' :: rest => .ok ([], rest)
  | c :: rest => do
    let part ← if isBreak c then lineBreak (plainPart c) rest else pure (plainPart c)
    let (parts, after) ← singleParts ending rest
    return (part :: parts, after)

/-- The text of a scalar in parts, and what follows its closing quote. -/
def parts (double : Bool) (ending : Failure) (s : List Char) :
    Except Failure (List Part × List Char) :=
  if double then doubleParts ending 0 0 s else singleParts ending s

/-- What the line breaks between two lines stand for; the first is missing where the lines are
joined. -/
def breaksAs (first : Option Char) (others : List Char) : List Char :=
  match first with
  | none => others
  | some c => if c != '\n' then c :: others else if others.isEmpty then [' '] else others

mutual

/-- The text of parts inside a line, after some blanks that may be dropped. -/
def inLine (blanks : List Char) : List Part → List Char
  | [] => blanks
  | .char c :: rest => blanks ++ c :: inLine [] rest
  | .spacing c :: rest => inLine (blanks ++ [c]) rest
  | .lineBreak c :: rest => betweenLines (some (keptBreak c)) [] rest
  | .join :: rest => blanks ++ betweenLines none [] rest

/-- The text of parts between two lines, after some line breaks. -/
def betweenLines (first : Option Char) (others : List Char) : List Part → List Char
  | [] => breaksAs first others
  | .char c :: rest => breaksAs first others ++ c :: inLine [] rest
  | .spacing _ :: rest => betweenLines first others rest
  | .lineBreak c :: rest => betweenLines first (others ++ [keptBreak c]) rest
  | .join :: rest => breaksAs first others ++ betweenLines none [] rest

end

/-- The text with its lines joined. -/
def joined (parts : List Part) : List Char :=
  inLine [] parts

/-- Reads a scalar from its opening quote on. -/
def read (double : Bool) (ending : Failure) (p : Place) : Except Failure (List Char × Place) := do
  let (ps, after) ← parts double ending (p.rest.drop 1)
  return (joined ps, p.skip (p.rest.length - after.length))

end Assay.Yaml.Quoted
