import Assay.Yaml.Node
import Assay.Yaml.Scalar

/-!
# What a document says

The scalars of a document are understood one level after the other: first those of the outermost
list or table, then those of the lists and tables in it, and so on. A fault further out is therefore
found before one further in, and of two faults on one level the first counts.

Before its entries a table takes in those of other tables, which stand under the key of two arrows.
A list or a table is no key. Where a key is repeated its last value counts, in the place of the
first.

* `Draft`: a document whose scalars are understood, with faults in the places of what they spoil;
* `Draft.ofNode`: the draft of a document;
* `Draft.firstFault?`: the fault that is found first;
* `Draft.value`: what a draft says where it has no fault.
-/

namespace Assay.Yaml

/-- A document whose scalars are understood. -/
inductive Draft where
  | leaf (v : Yaml)
  | fault (f : Failure)
  | seq (items : List Draft)
  | map (entries : List (Draft × Draft))
  deriving Repr, Inhabited

namespace Draft

/-- The entries of a table: those taken in from other tables, and its own. -/
structure Entries where
  taken : List (Draft × Draft) := []
  own : List (Draft × Draft) := []

/-- All entries in the order in which they count. -/
def Entries.all (es : Entries) : List (Draft × Draft) :=
  es.taken ++ es.own

def ofExcept (r : Except Failure Yaml) : Draft :=
  match r with
  | .ok v => leaf v
  | .error f => fault f

/-- The draft of a scalar; the key of two arrows and the equals sign say nothing. -/
def ofScalar (text : List Char) (isPlain : Bool) : Draft :=
  if isPlain then
    ofExcept do
      match ← Scalar.meaningOf text with
      | .value v => return v
      | _ => throw .malformedYaml
  else leaf (.str (String.ofList text))

/-- Whether a key takes in other tables. -/
def takesIn : Node → Bool
  | .scalar text true => text == ['<', '<']
  | _ => false

/-- The draft of a key; the equals sign is a text here. -/
def ofKey : Node → Draft
  | .scalar text isPlain =>
    if text == ['='] then leaf (.str "=") else ofScalar text isPlain
  | _ => fault .malformedYaml

mutual

/-- The draft of a document. A table that cannot take in what it names has this fault before any
other. -/
def ofNode : Node → Draft
  | .scalar text isPlain => ofScalar text isPlain
  | .seq items => seq (ofNodes items)
  | .map entries =>
    match ofEntries entries with
    | some es => map es.all
    | none => map [(fault .malformedYaml, leaf .null)]

def ofNodes : List Node → List Draft
  | [] => []
  | n :: rest => ofNode n :: ofNodes rest

/-- The entries that some pairs of nodes stand for. -/
def ofEntries : List (Node × Node) → Option Entries
  | [] => some {}
  | (k, v) :: rest => do
    if takesIn k then
      let taken ← takenFrom v
      let es ← ofEntries rest
      return { es with taken := taken ++ es.taken }
    else
      let es ← ofEntries rest
      return { es with own := (ofKey k, ofNode v) :: es.own }

/-- The entries that a node offers to be taken in: those of a table, or of the tables of a list, the
last first. -/
def takenFrom : Node → Option (List (Draft × Draft))
  | .map entries => (ofEntries entries).map Entries.all
  | .seq items => takenFromAll items
  | .scalar .. => none

def takenFromAll : List Node → Option (List (Draft × Draft))
  | [] => some []
  | .map entries :: rest => do
    let es ← ofEntries entries
    return (← takenFromAll rest) ++ es.all
  | _ :: _ => none

end

mutual

/-- The faults of a draft in the order of the text, with their levels. -/
def faults (level : Nat) : Draft → List (Nat × Failure)
  | leaf _ => []
  | fault f => [(level, f)]
  | seq items => faultsOfItems (level + 1) items
  | map entries => faultsOfEntries (level + 1) entries

def faultsOfItems (level : Nat) : List Draft → List (Nat × Failure)
  | [] => []
  | d :: rest => faults level d ++ faultsOfItems level rest

def faultsOfEntries (level : Nat) : List (Draft × Draft) → List (Nat × Failure)
  | [] => []
  | (k, v) :: rest => faults level k ++ faults level v ++ faultsOfEntries level rest

end

/-- The fault that is found first: the first one on the outermost level that has any. -/
def firstFault? (d : Draft) : Option Failure :=
  (d.faults 0).foldl (fun found (level, f) =>
    match found with
    | some (least, _) => if level < least then some (level, f) else found
    | none => some (level, f)) none |>.map (·.2)

mutual

/-- What a draft says where it has no fault. -/
def value : Draft → Yaml
  | leaf v => v
  | fault _ => .null
  | seq items => .seq (values items)
  | map entries => .map (table [] entries)

def values : List Draft → List Yaml
  | [] => []
  | d :: rest => value d :: values rest

/-- The table that some entries form after others. -/
def table (done : List (Yaml × Yaml)) : List (Draft × Draft) → List (Yaml × Yaml)
  | [] => done
  | (k, v) :: rest => table (insertEntry (value k) (value v) done) rest

end

end Draft

end Assay.Yaml
