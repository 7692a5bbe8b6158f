import Assay.Yaml.Plain
import Assay.Yaml.Quoted
import Assay.Yaml.Source

/-!
# Tokens of a document

A document is cut into scalars and the signs that hold them together. Where a line is indented
deeper than the one around it, a block starts; it ends where a line is indented less.

A key shows itself only by the colon after it. So a scalar or a bracket that might start a key is
remembered, and when the colon comes, the sign of a key is put in front of it. A key stands in one
line and is not too long.

Tokens are handed on as soon as no sign can come in front of them. So where a text goes wrong, the
tokens before any that might still be a key stand before the fault, and a reader who finds fault
with one of them comes first.

* `Token`: scalars and signs, and the fault that ends them;
* `Layout`: what is known at a place; `Layout.token` reads one token;
* `Token.ofSource`: the tokens of a document. References, types, directives and literal text are not
  read.
-/

namespace Assay.Yaml

/-- A scalar or a sign. -/
inductive Token where
  | documentStart
  | documentEnd
  | blockItems
  | blockTable
  | blockEnd
  | openItems
  | closeItems
  | openTable
  | closeTable
  /-- The dash before an item. -/
  | item
  | comma
  | key
  | value
  | scalar (text : List Char) (isPlain : Bool)
  /-- Nothing more can be read. -/
  | broken (fault : Failure)
  deriving DecidableEq, Repr

/-- Where a key might start. -/
structure KeyMark where
  /-- How many tokens come before it. -/
  token : Nat
  /-- How many brackets are open around it. -/
  depth : Nat
  /-- Only a key may stand here. -/
  required : Bool
  index : Nat
  line : Nat
  column : Nat
  deriving DecidableEq, Repr

/-- What is known at a place. -/
structure Layout where
  place : Place
  tokens : List Token := []
  /-- How many brackets are open. -/
  depth : Nat := 0
  indent : Int := -1
  /-- The indentations of the blocks around, from the inside out. -/
  outer : List Int := []
  /-- A key may start here. -/
  keyAllowed : Bool := true
  marks : List KeyMark := []
  /-- Why nothing can be read after the text, if it does not end there. -/
  fault : Option Failure := none

namespace Layout

/-- The longest key. -/
def maxKeyLength : Nat := 1024

def refuse {α : Type} : Except Failure α :=
  .error .malformedYaml

def push (l : Layout) (t : Token) : Layout :=
  { l with tokens := l.tokens ++ [t] }

/-- Moves some characters on. -/
def skip (l : Layout) (n : Nat) : Layout :=
  { l with place := l.place.skip n }

/-- Moves to the next thing that means something. Outside brackets a key may start after a line
break. -/
def skipIdle (l : Layout) : Layout :=
  let place := l.place.skipIdle
  { l with place, keyAllowed := l.keyAllowed || (l.depth == 0 && place.line != l.place.line) }

/-- A mark that can no longer be a key: its line is over, or it is too long. -/
def isStale (l : Layout) (m : KeyMark) : Bool :=
  m.line != l.place.line || m.index + maxKeyLength < l.place.index

/-- Drops the marks that can no longer be keys. -/
def dropStale (l : Layout) : Except Failure Layout :=
  if l.marks.any fun m => l.isStale m && m.required then refuse
  else .ok { l with marks := l.marks.filter fun m => !l.isStale m }

/-- The mark inside the same brackets. -/
def mark? (l : Layout) : Option KeyMark :=
  l.marks.find? fun m => m.depth == l.depth

/-- Drops the mark inside the same brackets. -/
def dropMark (l : Layout) : Layout :=
  { l with marks := l.marks.filter fun m => m.depth != l.depth }

/-- Gives up the mark inside the same brackets. -/
def giveUpMark (l : Layout) : Except Failure Layout :=
  match l.mark? with
  | some m => if m.required then refuse else .ok l.dropMark
  | none => .ok l

/-- Remembers that a key might start here. -/
def saveMark (l : Layout) : Except Failure Layout :=
  if l.keyAllowed then do
    let l ← l.giveUpMark
    let m : KeyMark :=
      { token := l.tokens.length, depth := l.depth
        required := l.depth == 0 && l.indent == l.place.column
        index := l.place.index, line := l.place.line, column := l.place.column }
    return { l with marks := l.marks ++ [m] }
  else .ok l

/-- The blocks that end at a column: the indentation that remains, the blocks around it and how many
have ended. -/
def endedBlocks (column : Int) (indent : Int) : List Int → Int × List Int × Nat
  | [] => (indent, [], 0)
  | o :: outer =>
    if column < indent then
      let (indent, outer, n) := endedBlocks column o outer
      (indent, outer, n + 1)
    else (indent, o :: outer, 0)

/-- Ends the blocks that are indented deeper than a column. -/
def unindent (l : Layout) (column : Int) : Layout :=
  if l.depth = 0 then
    let (indent, outer, n) := endedBlocks column l.indent l.outer
    { l with indent, outer, tokens := l.tokens ++ List.replicate n .blockEnd }
  else l

/-- Starts a block at a column if it is deeper, with a sign before the token at a position. -/
def indentAt (l : Layout) (column : Nat) (sign : Token) (position : Nat) : Layout :=
  if l.depth = 0 ∧ l.indent < column then
    { l with
      indent := column
      outer := l.indent :: l.outer
      tokens := l.tokens.take position ++ sign :: l.tokens.drop position }
  else l

/-- Starts a block here if this is deeper. -/
def indentHere (l : Layout) (sign : Token) : Layout :=
  l.indentAt l.place.column sign l.tokens.length

/-- A mark between documents. -/
def documentMark (l : Layout) (t : Token) : Except Failure Layout := do
  let l ← (l.unindent (-1)).giveUpMark
  return { l.push t with keyAllowed := false }.skip 3

/-- An opening bracket. -/
def opening (l : Layout) (t : Token) : Except Failure Layout := do
  let l ← l.saveMark
  return { l.push t with depth := l.depth + 1, keyAllowed := true }.skip 1

/-- A closing bracket. -/
def closing (l : Layout) (t : Token) : Except Failure Layout := do
  if l.depth = 0 then refuse
  else
    let l ← l.giveUpMark
    return { l.push t with depth := l.depth - 1, keyAllowed := false }.skip 1

/-- A comma; there is none outside brackets. -/
def comma (l : Layout) : Except Failure Layout := do
  if l.depth = 0 then refuse
  else
    let l ← l.giveUpMark
    return { l.push .comma with keyAllowed := true }.skip 1

/-- The dash before an item; there is none inside brackets. -/
def item (l : Layout) : Except Failure Layout := do
  if l.depth != 0 || !l.keyAllowed then refuse
  else
    let l ← (l.indentHere .blockItems).giveUpMark
    return { l.push .item with keyAllowed := true }.skip 1

/-- The question mark before a key. -/
def key (l : Layout) : Except Failure Layout := do
  if l.depth = 0 && !l.keyAllowed then refuse
  else
    let l ← (l.indentHere .blockTable).giveUpMark
    return { l.push .key with keyAllowed := l.depth == 0 }.skip 1

/-- The colon before a value. -/
def value (l : Layout) : Except Failure Layout :=
  match l.mark? with
  | some m =>
    let l := l.dropMark
    let l := { l with tokens := l.tokens.take m.token ++ Token.key :: l.tokens.drop m.token }
    let l := l.indentAt m.column .blockTable m.token
    .ok ({ l.push .value with keyAllowed := false }.skip 1)
  | none =>
    if l.depth = 0 && !l.keyAllowed then refuse
    else
      let l := l.indentHere .blockTable
      .ok ({ l.push .value with keyAllowed := l.depth == 0 }.skip 1)

/-- A scalar between quotes. -/
def quoted (l : Layout) (double : Bool) : Except Failure Layout := do
  let l ← l.saveMark
  let (text, place) ← Quoted.read double (l.fault.getD .malformedYaml) l.place
  return { l.push (.scalar text false) with place, keyAllowed := false }

/-- A scalar without quotes. -/
def plain (l : Layout) : Except Failure Layout := do
  let l ← l.saveMark
  let r := Plain.read (l.depth != 0) l.indent l.place
  return { l.push (.scalar r.text true) with place := r.place, keyAllowed := r.lineEnded }

/-- The characters that start no scalar without quotes. -/
def signs : List Char :=
  "-?:,[]\x7b\x7d#&*!|>'\x22%@`".toList

/-- Whether a scalar without quotes starts with a character. -/
def startsPlain (nested : Bool) (c : Char) (rest : List Char) : Bool :=
  (!isGap c && !signs.contains c) ||
  (!gapFollows rest && (c == '-' || (!nested && (c == '?' || c == ':'))))

/-- Reads the token that starts with a character. -/
def token (l : Layout) (c : Char) (rest : List Char) : Except Failure Layout :=
  let nested := l.depth != 0
  let atStart := l.place.column == 0
  if c == '%' && atStart then refuse
  else if atStart && isTriple '-' (c :: rest) then l.documentMark .documentStart
  else if atStart && isTriple '.' (c :: rest) then l.documentMark .documentEnd
  else if c == '[' then l.opening .openItems
  else if c == '\x7b' then l.opening .openTable
  else if c == ']' then l.closing .closeItems
  else if c == '\x7d' then l.closing .closeTable
  else if c == ',' then l.comma
  else if c == '-' && gapFollows rest then l.item
  else if c == '?' && (nested || gapFollows rest) then l.key
  else if c == ':' && (nested || gapFollows rest) then l.value
  else if c == '\x27' then l.quoted false
  else if c == '\x22' then l.quoted true
  else if startsPlain nested c rest then l.plain
  else refuse

/-- The tokens that no sign can come in front of any more. -/
def settled (l : Layout) : List Token :=
  match ((l.marks.filter fun m => !l.isStale m).map KeyMark.token).min? with
  | some n => l.tokens.take n
  | none => l.tokens

/-- What is known after the next token, or all tokens if the text is over. No token ends where
nothing more can be read. -/
def advance (l : Layout) : Except Failure (Layout ⊕ List Token) := do
  let l ← l.skipIdle.dropStale
  match l.place.rest with
  | [] =>
    match l.fault with
    | some f => throw f
    | none => return .inr (← (l.unindent (-1)).giveUpMark).tokens
  | c :: rest =>
    let next ← (l.unindent l.place.column).token c rest
    match next.place.rest, l.fault with
    | [], some f => throw f
    | _, _ => return .inl next

/-- Reads the tokens from a place on. -/
def run : (fuel : Nat) → Layout → List Token
  | 0, l => l.settled
  | fuel + 1, l =>
    match l.advance with
    | .ok (.inl next) => run fuel next
    | .ok (.inr tokens) => tokens
    | .error f => l.settled ++ [.broken f]

end Layout

/-- The tokens of a document; every token takes a character, so there are no more tokens to read
than characters. -/
def Token.ofSource (s : Source) : List Token :=
  Layout.run (s.text.length + 1) { place := ⟨s.text, 0, 0, 0⟩, fault := s.fault }

end Assay.Yaml
