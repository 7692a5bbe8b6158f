import Assay.Decimal
import Assay.Calendar

/-!
# YAML values

`Yaml` is what a YAML document says, as data. A table is a list of pairs, each key once, in the
order in which the keys first came.
-/

namespace Assay

/-- A value of a document. -/
inductive Yaml where
  | null
  | bool (b : Bool)
  | int (n : Int)
  | real (x : FloatValue)
  | date (d : Day)
  | time (m : Moment)
  | str (s : String)
  | seq (items : List Yaml)
  | map (entries : List (Yaml × Yaml))
  deriving Repr, Inhabited

namespace Yaml

/-- The name under which messages speak of the kind of a value. -/
def kindName : Yaml → String
  | null => "NoneType"
  | bool _ => "bool"
  | int _ => "int"
  | real _ => "float"
  | date _ => "datetime.date"
  | time _ => "datetime.datetime"
  | str _ => "str"
  | seq _ => "list"
  | map _ => "dict"

/-- Empty values, zero, false and null count as absent where a default may stand in. -/
def isTruthy : Yaml → Bool
  | null => false
  | bool b => b
  | int n => n != 0
  | real x => x.isNonzero
  | date _ | time _ => true
  | str s => !s.isEmpty
  | seq xs => !xs.isEmpty
  | map es => !es.isEmpty

/-- The number that a value is, if it is one; the sign of a zero is no part of it. -/
def number? : Yaml → Option FloatValue
  | bool b => some (.finite (if b then 1 else 0))
  | int n => some (.finite n)
  | real x => some x.asNumber
  | _ => none

mutual

/-- The form in which messages show a value. -/
def shown : Yaml → String
  | null => "None"
  | bool true => "True"
  | bool false => "False"
  | int n => toString n
  | real x => x.shown
  | date d => d.shown
  | time m => m.shown
  | str s => Text.quoted s
  | seq xs => "[" ++ shownItems xs ++ "]"
  | map es => "\x7b" ++ shownEntries es ++ "\x7d"

def shownItems : List Yaml → String
  | [] => ""
  | [x] => x.shown
  | x :: y :: rest => x.shown ++ ", " ++ shownItems (y :: rest)

def shownEntries : List (Yaml × Yaml) → String
  | [] => ""
  | [(k, v)] => k.shown ++ ": " ++ v.shown
  | (k, v) :: e :: rest => k.shown ++ ": " ++ v.shown ++ ", " ++ shownEntries (e :: rest)

end

/-- The least number with too many digits to be shown. -/
def longInteger : Nat := Nat.pow 10 Json.maxDigits

mutual

/-- Whether a value holds an integer of too many digits to be shown. -/
def hasLongInteger : Yaml → Bool
  | int n => longInteger ≤ n.natAbs
  | seq xs => anyLong xs
  | map es => anyEntryLong es
  | _ => false

def anyLong : List Yaml → Bool
  | [] => false
  | x :: rest => x.hasLongInteger || anyLong rest

def anyEntryLong : List (Yaml × Yaml) → Bool
  | [] => false
  | (k, v) :: rest => k.hasLongInteger || v.hasLongInteger || anyEntryLong rest

end

/-- A value as plain text: a string, a day and a time as they are written, all else as it is
shown. -/
def plain : Yaml → String
  | str s => s
  | date d => d.written
  | time m => m.written
  | v => v.shown

/-- Whether two keys are the same. Numbers are compared by value and times by the instant; lists and
tables are no keys. -/
def sameKey (a b : Yaml) : Bool :=
  match a, b with
  | null, null => true
  | str s, str t => s == t
  | date s, date t => s == t
  | time s, time t => s.isSame t
  | a, b =>
    match a.number?, b.number? with
    | some x, some y => x == y
    | _, _ => false

/-- The entries with `key` set: in place if it is there, and otherwise at the end. -/
def insertEntry (key value : Yaml) : List (Yaml × Yaml) → List (Yaml × Yaml)
  | [] => [(key, value)]
  | (k, v) :: rest =>
    if k.sameKey key then (k, value) :: rest else (k, v) :: insertEntry key value rest

/-- The value of a name in the entries of a table. -/
def valueOf? (entries : List (Yaml × Yaml)) (name : String) : Option Yaml :=
  (entries.find? fun (k, _) => k.sameKey (str name)).map (·.2)

/-- The value of a name in the entries of a table, or a default. -/
def entryOr (entries : List (Yaml × Yaml)) (name : String) (default : Yaml) : Yaml :=
  (valueOf? entries name).getD default

end Yaml

end Assay
