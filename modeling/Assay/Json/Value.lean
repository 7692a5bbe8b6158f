import Assay.Decimal
import Assay.Text.Quoted

/-!
# JSON values

`Json` is a document as data. An object is a list of fields, each key once, in the order in which
the keys first came; `Json.insertField` keeps it so. A number written with a fraction or an exponent
is a float, also where its value is whole.
-/

namespace Assay

/-- A JSON document. -/
inductive Json where
  | null
  | bool (b : Bool)
  | int (n : Int)
  | real (x : FloatValue)
  | str (s : String)
  | arr (items : List Json)
  | obj (fields : List (String × Json))
  deriving Repr, Inhabited

namespace Json

/-- The fields with `key` set: in place if it is there, and otherwise at the end. -/
def insertField (key : String) (value : Json) : List (String × Json) → List (String × Json)
  | [] => [(key, value)]
  | (k, v) :: rest => if k == key then (k, value) :: rest else (k, v) :: insertField key value rest

/-- The value of a key. -/
def field? (j : Json) (key : String) : Option Json :=
  match j with
  | obj fields => fields.lookup key
  | _ => none

/-- The value of a key, or null. -/
def field (j : Json) (key : String) : Json :=
  (j.field? key).getD null

/-- The text of a string. -/
def asString? : Json → Option String
  | str s => some s
  | _ => none

def asInt? : Json → Option Int
  | int n => some n
  | _ => none

def asBool? : Json → Option Bool
  | bool b => some b
  | _ => none

/-- The items of an array, and nothing of any other value. -/
def items : Json → List Json
  | arr xs => xs
  | _ => []

/-- Empty values, zero, false and null count as absent where a default may stand in. -/
def isTruthy : Json → Bool
  | null => false
  | bool b => b
  | int n => n != 0
  | real x => x.isNonzero
  | str s => !s.isEmpty
  | arr xs => !xs.isEmpty
  | obj fs => !fs.isEmpty

/-- The number that a value is, if it is one; the sign of a zero is no part of it. -/
def number? : Json → Option FloatValue
  | bool b => some (.finite (if b then 1 else 0))
  | int n => some (.finite n)
  | real x => some x.asNumber
  | _ => none

/-- The name under which messages speak of the kind of a value. -/
def kindName : Json → String
  | null => "NoneType"
  | bool _ => "bool"
  | int _ => "int"
  | real _ => "float"
  | str _ => "str"
  | arr _ => "list"
  | obj _ => "dict"

/-- An optional string as a value. -/
def ofString? : Option String → Json
  | some s => str s
  | none => null

/-- An optional integer as a value. -/
def ofInt? : Option Int → Json
  | some n => int n
  | none => null

/-- A list of strings as an array. -/
def strings (xs : List String) : Json :=
  arr (xs.map str)

mutual

/-- The form in which messages show a value. -/
def shown : Json → String
  | null => "None"
  | bool true => "True"
  | bool false => "False"
  | int n => toString n
  | real x => x.shown
  | str s => Text.quoted s
  | arr xs => "[" ++ shownItems xs ++ "]"
  | obj fs => "\x7b" ++ shownFields fs ++ "\x7d"

def shownItems : List Json → String
  | [] => ""
  | [x] => x.shown
  | x :: y :: rest => x.shown ++ ", " ++ shownItems (y :: rest)

def shownFields : List (String × Json) → String
  | [] => ""
  | [(k, v)] => Text.quoted k ++ ": " ++ v.shown
  | (k, v) :: f :: rest => Text.quoted k ++ ": " ++ v.shown ++ ", " ++ shownFields (f :: rest)

end

/-- A value as plain text: a string as it is, all else as it is shown. -/
def plain : Json → String
  | str s => s
  | v => v.shown

end Json

end Assay
