import Assay.Yaml.Token

/-!
# Structure of a document

The tokens of a document form a node: a scalar, a list or a table. A missing key, value or item is
an empty scalar. Inside the brackets of a list a key and a value form a table of one entry, and a
list that is the value in a table may be indented no deeper than the table. Lists and tables are
nested no deeper than a limit.

* `Node`: a document before its scalars are understood;
* `Node.ofTokens`: the only document in some tokens, or the first fault among them.
-/

namespace Assay.Yaml

/-- A document before its scalars are understood. -/
inductive Node where
  | scalar (text : List Char) (isPlain : Bool)
  | seq (items : List Node)
  | map (entries : List (Node × Node))
  deriving Repr, Inhabited

namespace Node

/-- What stands where something is missing. -/
def empty : Node :=
  scalar [] true

/-- How deep lists and tables may be nested. -/
def maxNesting : Nat := 487

/-- Where a node may stand. -/
structure Setting where
  /-- A block may start here. -/
  block : Bool
  /-- A list without an indentation of its own may start here. -/
  unindented : Bool

/-- A whole block. -/
def Setting.wide : Setting := ⟨true, false⟩

/-- The key or value of a block. -/
def Setting.entry : Setting := ⟨true, true⟩

/-- Inside brackets. -/
def Setting.nested : Setting := ⟨false, false⟩

/-- Whether the tokens go on with one of some signs. -/
def goesOnWith (signs : List Token) (ts : List Token) : Bool :=
  match ts with
  | t :: _ => signs.contains t
  | [] => false

/-- The failure where no token fits. -/
def refusal (ts : List Token) : Failure :=
  match ts with
  | .broken f :: _ => f
  | _ => .malformedYaml

/-- Reads a list or a table, for which there must be room. -/
def collection {α : Type} (parts : (room : Nat) → Except Failure (α × List Token))
    (make : α → Node) : (room : Nat) → Except Failure (Node × List Token)
  | 0 => .error .nestedTooDeep
  | room + 1 => (parts room).map fun (a, rest) => (make a, rest)

mutual

/-- Reads a node; `room` is how deep it may be nested. -/
def read (s : Setting) : (fuel room : Nat) → List Token → Except Failure (Node × List Token)
  | 0, _, ts => .error (refusal ts)
  | fuel + 1, room, ts =>
    match ts with
    | .scalar text isPlain :: rest => .ok (scalar text isPlain, rest)
    | .openItems :: rest => collection (listItems fuel · true rest) seq room
    | .openTable :: rest => collection (listEntries fuel · true rest) map room
    | .blockItems :: rest =>
      if s.block then collection (blockItems fuel · rest) seq room else .error .malformedYaml
    | .blockTable :: rest =>
      if s.block then collection (blockEntries fuel · rest) map room else .error .malformedYaml
    | .item :: _ =>
      if s.unindented then collection (looseItems fuel · ts) seq room else .error .malformedYaml
    | ts => .error (refusal ts)
termination_by structural fuel => fuel

/-- Reads a node unless it is missing, which one of some signs shows. -/
def readUnless (s : Setting) (signs : List Token) :
    (fuel room : Nat) → List Token → Except Failure (Node × List Token)
  | 0, _, ts => .error (refusal ts)
  | fuel + 1, room, ts => if goesOnWith signs ts then .ok (empty, ts) else read s fuel room ts
termination_by structural fuel => fuel

/-- Reads the value that may follow a key. -/
def readValue (s : Setting) (signs : List Token) :
    (fuel room : Nat) → List Token → Except Failure (Node × List Token)
  | 0, _, ts => .error (refusal ts)
  | fuel + 1, room, .value :: rest => readUnless s signs fuel room rest
  | _ + 1, _, ts => .ok (empty, ts)
termination_by structural fuel => fuel

/-- Reads the items of a block. -/
def blockItems : (fuel room : Nat) → List Token → Except Failure (List Node × List Token)
  | 0, _, ts => .error (refusal ts)
  | fuel + 1, room, .item :: rest => do
    let (x, rest) ← readUnless .wide [.item, .blockEnd] fuel room rest
    let (xs, rest) ← blockItems fuel room rest
    return (x :: xs, rest)
  | _ + 1, _, .blockEnd :: rest => .ok ([], rest)
  | _ + 1, _, ts => .error (refusal ts)
termination_by structural fuel => fuel

/-- Reads the items of a list without an indentation of its own. -/
def looseItems : (fuel room : Nat) → List Token → Except Failure (List Node × List Token)
  | 0, _, ts => .error (refusal ts)
  | fuel + 1, room, .item :: rest => do
    let (x, rest) ← readUnless .wide [.item, .key, .value, .blockEnd] fuel room rest
    let (xs, rest) ← looseItems fuel room rest
    return (x :: xs, rest)
  | _ + 1, _, ts => .ok ([], ts)
termination_by structural fuel => fuel

/-- Reads the entries of a block. -/
def blockEntries :
    (fuel room : Nat) → List Token → Except Failure (List (Node × Node) × List Token)
  | 0, _, ts => .error (refusal ts)
  | fuel + 1, room, .key :: rest => do
    let (k, rest) ← readUnless .entry [.key, .value, .blockEnd] fuel room rest
    let (v, rest) ← readValue .entry [.key, .value, .blockEnd] fuel room rest
    let (es, rest) ← blockEntries fuel room rest
    return ((k, v) :: es, rest)
  | _ + 1, _, .blockEnd :: rest => .ok ([], rest)
  | _ + 1, _, ts => .error (refusal ts)
termination_by structural fuel => fuel

/-- Reads a key and a value that are an item of a list between brackets. -/
def pairItem :
    (fuel room : Nat) → List Token → Except Failure (List (Node × Node) × List Token)
  | 0, _, ts => .error (refusal ts)
  | fuel + 1, room, ts => do
    let (k, rest) ← readUnless .nested [.value, .comma, .closeItems] fuel room ts
    let (v, rest) ← readValue .nested [.comma, .closeItems] fuel room rest
    return ([(k, v)], rest)
termination_by structural fuel => fuel

/-- Reads the items between brackets. -/
def listItems :
    (fuel room : Nat) → (first : Bool) → List Token → Except Failure (List Node × List Token)
  | 0, _, _, ts => .error (refusal ts)
  | _ + 1, _, _, .closeItems :: rest => .ok ([], rest)
  | fuel + 1, room, false, .comma :: rest => listItems fuel room true rest
  | _ + 1, _, false, ts => .error (refusal ts)
  | fuel + 1, room, true, .key :: rest => do
    let (x, rest) ← collection (pairItem fuel · rest) map room
    let (xs, rest) ← listItems fuel room false rest
    return (x :: xs, rest)
  | fuel + 1, room, true, ts => do
    let (x, rest) ← read .nested fuel room ts
    let (xs, rest) ← listItems fuel room false rest
    return (x :: xs, rest)
termination_by structural fuel => fuel

/-- Reads the entries between brackets. -/
def listEntries :
    (fuel room : Nat) → (first : Bool) → List Token →
      Except Failure (List (Node × Node) × List Token)
  | 0, _, _, ts => .error (refusal ts)
  | _ + 1, _, _, .closeTable :: rest => .ok ([], rest)
  | fuel + 1, room, false, .comma :: rest => listEntries fuel room true rest
  | _ + 1, _, false, ts => .error (refusal ts)
  | fuel + 1, room, true, .key :: rest => do
    let (k, rest) ← readUnless .nested [.value, .comma, .closeTable] fuel room rest
    let (v, rest) ← readValue .nested [.comma, .closeTable] fuel room rest
    let (es, rest) ← listEntries fuel room false rest
    return ((k, v) :: es, rest)
  | fuel + 1, room, true, ts => do
    let (k, rest) ← read .nested fuel room ts
    let (es, rest) ← listEntries fuel room false rest
    return ((k, empty) :: es, rest)
termination_by structural fuel => fuel

end

/-- Takes the marks of the end that follow a document; nothing else may. -/
def close (n : Node) : List Token → Except Failure Node
  | [] => .ok n
  | .documentEnd :: rest => close n rest
  | ts => .error (refusal ts)

/-- The only document in some tokens, which is empty if there are none. No reading goes deeper than
four steps a token. -/
def ofTokens (ts : List Token) : Except Failure Node := do
  let fuel := 4 * ts.length + 4
  match ts with
  | [] => return empty
  | .documentStart :: rest =>
    if rest.isEmpty || goesOnWith [.documentStart, .documentEnd] rest then close empty rest
    else
      let (n, rest) ← read .wide fuel maxNesting rest
      close n rest
  | ts =>
    let (n, rest) ← read .wide fuel maxNesting ts
    close n rest

end Node

end Assay.Yaml
