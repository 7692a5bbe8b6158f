import Assay.Json.Value

/-!
# Writing JSON

`Json.write` writes a value in one of three layouts: without blanks, on one line with a blank after
every comma and colon, or with one item a line, indented by two blanks a level. Each may be
restricted to ASCII, in which case other characters are written by their UTF-16 units.
-/

namespace Assay.Json

/-- Where a document has blanks. -/
inductive Spacing where
  | dense
  | spaced
  /-- One item a line. -/
  | indented
  deriving DecidableEq, Repr

/-- How a document is laid out. -/
structure Layout where
  spacing : Spacing
  /-- Only ASCII characters are written. -/
  ascii : Bool
  deriving DecidableEq, Repr

/-- One UTF-16 unit by its code. -/
def writeUnit (n : Nat) : List Char :=
  ['\\', 'u'] ++ Text.hexDigits 4 n

/-- One character of a string. -/
def writeChar (ascii : Bool) (c : Char) : List Char :=
  if c == '\x22' then ['\\', '\x22']
  else if c == '\\' then ['\\', '\\']
  else if c == '\n' then ['\\', 'n']
  else if c == '\r' then ['\\', 'r']
  else if c == '\t' then ['\\', 't']
  else if c.toNat == 8 then ['\\', 'b']
  else if c.toNat == 12 then ['\\', 'f']
  else if c.toNat < 32 then writeUnit c.toNat
  else if !ascii || c.toNat < 127 then [c]
  else if Text.codeOf c < 0x10000 then writeUnit (Text.codeOf c)
  else
    writeUnit (0xD800 + (c.toNat - 0x10000) / 0x400) ++
      writeUnit (0xDC00 + (c.toNat - 0x10000) % 0x400)

/-- A string between quotes. -/
def writeString (ascii : Bool) (s : String) : List Char :=
  '\x22' :: s.toList.flatMap (writeChar ascii) ++ ['\x22']

/-- A float; the infinities and what is no number have words of their own. -/
def writeReal : FloatValue → String
  | .infinite negative => if negative then "-Infinity" else "Infinity"
  | .undefined => "NaN"
  | x => x.shown

/-- What stands before an item at a depth: a new line and its indentation, or nothing. -/
def Layout.lead (l : Layout) (depth : Nat) : List Char :=
  if l.spacing = .indented then '\n' :: List.replicate (2 * depth) ' ' else []

/-- What stands between two items at a depth. -/
def Layout.separator (l : Layout) (depth : Nat) : List Char :=
  match l.spacing with
  | .dense => [',']
  | .spaced => [',', ' ']
  | .indented => ',' :: l.lead depth

/-- What stands between a key and its value. -/
def Layout.colon (l : Layout) : List Char :=
  if l.spacing = .dense then [':'] else [':', ' ']

mutual

/-- A value whose items stand at `depth + 1`. -/
def write (l : Layout) (depth : Nat) : Json → List Char
  | null => "null".toList
  | bool true => "true".toList
  | bool false => "false".toList
  | int n => (toString n).toList
  | real x => (writeReal x).toList
  | str s => writeString l.ascii s
  | arr [] => ['[', ']']
  | arr (x :: xs) =>
    '[' :: l.lead (depth + 1) ++ write l (depth + 1) x ++ writeItems l (depth + 1) xs ++
      l.lead depth ++ [']']
  | obj [] => ['\x7b', '\x7d']
  | obj ((k, v) :: fs) =>
    '\x7b' :: l.lead (depth + 1) ++ writeString l.ascii k ++ l.colon ++ write l (depth + 1) v ++
      writeFields l (depth + 1) fs ++ l.lead depth ++ ['\x7d']

/-- The items after the first. -/
def writeItems (l : Layout) (depth : Nat) : List Json → List Char
  | [] => []
  | x :: xs => l.separator depth ++ write l depth x ++ writeItems l depth xs

/-- The fields after the first. -/
def writeFields (l : Layout) (depth : Nat) : List (String × Json) → List Char
  | [] => []
  | (k, v) :: fs =>
    l.separator depth ++ writeString l.ascii k ++ l.colon ++ write l depth v ++
      writeFields l depth fs

end

/-- A document as a string. -/
def render (l : Layout) (j : Json) : String :=
  String.ofList (j.write l 0)

/-- A document without blanks, with all characters as they are. -/
def dense (j : Json) : String :=
  j.render ⟨.dense, false⟩

/-- A document on one line, with all characters as they are. -/
def compact (j : Json) : String :=
  j.render ⟨.spaced, false⟩

/-- A document with one item a line, with all characters as they are. -/
def pretty (j : Json) : String :=
  j.render ⟨.indented, false⟩

/-- A document with one item a line, in ASCII. -/
def prettyAscii (j : Json) : String :=
  j.render ⟨.indented, true⟩

end Assay.Json
