import Assay.Pattern.Build
import Assay.Text.Numeral
import Assay.Yaml.Value

/-!
# Plain scalars as values

A scalar without quotes is a truth value, a number, nothing, a day or a time if it is written like
one, and a text otherwise. Underscores inside numbers mean nothing. An integer is binary after `0b`,
hexadecimal after `0x` and octal after `0`; a number may also be written in base sixty, with colons
between its parts.

* `Scalar.int?`, `Scalar.real?`, `Scalar.moment?`: the numbers and times among the scalars;
* `Scalar.meaningOf`: what a scalar says.
-/

namespace Assay.Yaml.Scalar

/-- The words for a truth value. -/
def truthWords : List (String × Bool) :=
  [("yes", true), ("Yes", true), ("YES", true), ("no", false), ("No", false), ("NO", false),
   ("true", true), ("True", true), ("TRUE", true), ("false", false), ("False", false),
   ("FALSE", false), ("on", true), ("On", true), ("ON", true), ("off", false), ("Off", false),
   ("OFF", false)]

/-- The words for nothing. -/
def nullWords : List String :=
  ["", "~", "null", "Null", "NULL"]

/-- A digit or an underscore. -/
def isDigitOrLow (c : Char) : Bool :=
  c.isDigit || c == '_'

/-- Digits and underscores, a digit first. -/
def isDigits (s : List Char) : Bool :=
  (s.head?.map Char.isDigit).getD false && s.all isDigitOrLow

/-- A part of a number in base sixty after the first. -/
def isSixtieth : List Char → Bool
  | [c] => c.isDigit
  | [c, d] => '0' ≤ c && c ≤ '5' && d.isDigit
  | _ => false

/-- The values of the digits of a text; underscores have none. -/
def digits (s : List Char) : List Nat :=
  s.filterMap Text.hexValue?

/-- The value of digits in a base. -/
def inBase (base : Nat) (ds : List Nat) : Nat :=
  ds.foldl (fun n d => base * n + d) 0

/-- The integer that some digits after a sign of their base stand for. -/
def based (base : Nat) (s : List Char) : Except Failure Nat :=
  let ds := digits s
  if ds.isEmpty then .error (.number (.spelling "" base)) else .ok (inBase base ds)

/-- The integer that some decimal digits stand for. -/
def whole (s : List Char) : Except Failure Nat :=
  let ds := digits s
  if Json.maxDigits < ds.length then .error (.number (.digits ds.length)) else .ok (inBase 10 ds)

/-- The integer of a text without a sign, if it is written like one. -/
def unsigned? : List Char → Option (Except Failure Nat)
  | '0' :: 'b' :: rest =>
    if !rest.isEmpty && rest.all "01_".toList.contains then some (based 2 rest) else none
  | '0' :: 'x' :: rest =>
    if !rest.isEmpty && rest.all fun c => (Text.hexValue? c).isSome || c == '_' then
      some (based 16 rest)
    else none
  | '0' :: rest =>
    if rest.all "01234567_".toList.contains then some (.ok (inBase 8 (digits rest))) else none
  | s =>
    match s.splitOn ':' with
    | [] => none
    | first :: parts =>
      if isDigits first && parts.all isSixtieth then
        some (((first :: parts).mapM whole).map (inBase 60))
      else none

/-- The integer of a text, if it is written like one. -/
def int? (s : List Char) : Option (Except Failure Int) :=
  let (negative, body) := Text.signOf s
  (unsigned? body).map fun r => r.map fun n => if negative then -(n : Int) else n

/-- The exponent at the end of a number: a letter, a sign and digits, or nothing at all. -/
def exponent? : List Char → Option Int
  | [] => some 0
  | e :: sign :: ds =>
    if (e == 'e' || e == 'E') && (sign == '+' || sign == '-') && !ds.isEmpty && ds.all Char.isDigit
    then
      let n : Int := inBase 10 (digits ds)
      some (if sign == '-' then -n else n)
    else none
  | _ => none

/-- The number of a text with a point, and then perhaps an exponent; digits are before the point or,
without a sign, right after it. -/
def pointed? (hasSign : Bool) (s : List Char) : Option FloatValue :=
  let before := s.takeWhile isDigitOrLow
  match s.dropWhile isDigitOrLow with
  | '.' :: rest =>
    let after := rest.takeWhile isDigitOrLow
    if isDigits before || (before.isEmpty && !hasSign && isDigits after) then
      (exponent? (rest.dropWhile isDigitOrLow)).map fun e =>
        let ds := digits after
        .ofScaled (inBase 10 (digits before ++ ds)) (e - ds.length)
    else none
  | _ => none

/-- The sum of the parts of a number in base sixty, its last part first and worth `weight`, which
must be no more than a float can hold. -/
def sumSixtieths (weight : Nat) (sum : Rat) : List Rat → Except Failure Rat
  | [] => .ok sum
  | q :: rest =>
    match Binary64.round weight with
    | none => .error (.number .tooLarge)
    | some w =>
      sumSixtieths (weight * 60) (Binary64.nearest (sum + Binary64.nearest (q * w))) rest

/-- The number of a text in base sixty with a point in its last part. -/
def sixtieths? (s : List Char) : Option (Except Failure FloatValue) :=
  let upTo := s.takeWhile (· != '.')
  match s.dropWhile (· != '.'), upTo.splitOn ':' with
  | '.' :: after, first :: second :: parts =>
    if isDigits first && (second :: parts).all isSixtieth && after.all isDigitOrLow then
      let ds := digits after
      let last : Rat :=
        match FloatValue.ofScaled
          (inBase 10 (digits ((second :: parts).getLast?.getD []) ++ ds)) (-ds.length) with
        | .finite q => q
        | _ => 0
      let others := ((first :: second :: parts).dropLast.map fun p =>
        Binary64.nearest (inBase 10 (digits p) : Nat)).reverse
      some ((sumSixtieths 1 0 (last :: others)).map fun sum =>
        match Binary64.round sum with
        | some q => .finite q
        | none => .infinite false)
    else none
  | _, _ => none

/-- The float of a text, if it is written like one. -/
def real? (s : List Char) : Option (Except Failure FloatValue) :=
  let (negative, body) := Text.signOf s
  let hasSign := body.length != s.length
  let size : Option (Except Failure FloatValue) :=
    if [".inf", ".Inf", ".INF"].contains (String.ofList body) then some (.ok (.infinite false))
    else if !hasSign && [".nan", ".NaN", ".NAN"].contains (String.ofList body) then
      some (.ok .undefined)
    else ((pointed? hasSign body).map .ok).or (sixtieths? body)
  size.map fun r => r.map fun x => if negative then x.negate else x

section Time

open Pattern

def digit : CharClass := .oneOf "0123456789"

/-- One or two digits. -/
def oneOrTwo : Pattern := one digit ++ maybe (one digit)

def two : Pattern := one digit ++ one digit

/-- A day, as groups 1 to 3. -/
def day : Pattern :=
  textStart ++ capture 1 (two ++ two) ++ lit "-" ++ capture 2 two ++ lit "-" ++ capture 3 two ++
    textEnd

/-- An offset from universal time: its sign as group 8, its hours and minutes as groups 9 and 10. -/
def offset : Pattern :=
  either (capture 8 (lit "Z"))
    (capture 8 (one (.oneOf "-+")) ++ capture 9 oneOrTwo ++ maybe (lit ":" ++ capture 10 two))

/-- A day and a time: the day as groups 1 to 3, the time as groups 4 to 7. -/
def moment : Pattern :=
  textStart ++ capture 1 (two ++ two) ++ lit "-" ++ capture 2 oneOrTwo ++ lit "-" ++
    capture 3 oneOrTwo ++ either (one (.oneOf "Tt")) (atLeastOne (.oneOf " \t")) ++
    capture 4 oneOrTwo ++ lit ":" ++ capture 5 two ++ lit ":" ++ capture 6 two ++
    maybe (lit "." ++ capture 7 (many digit)) ++ maybe (many (.oneOf " \t") ++ offset) ++ textEnd

/-- The number that a group holds. -/
def group (m : Match) (n : Nat) : Nat :=
  inBase 10 (digits ((m.group? n).getD []))

def dayOf (m : Match) : Day :=
  ⟨group m 1, group m 2, group m 3⟩

/-- The millionths that the digits of a fraction stand for. -/
def microOf (m : Match) : Nat :=
  let ds := (digits ((m.group? 7).getD [])).take 6
  inBase 10 (ds ++ List.replicate (6 - ds.length) 0)

def offsetOf (m : Match) : Option Int :=
  let minutes : Int := group m 9 * 60 + group m 10
  match m.group? 8 with
  | some ['-'] => some (-minutes)
  | some _ => some minutes
  | none => none

def momentOf (m : Match) : Moment :=
  ⟨dayOf m, group m 4, group m 5, group m 6, microOf m, offsetOf m⟩

/-- The day or time of a text, if it is written like one. -/
def moment? (s : List Char) : Option (Except Failure Yaml) :=
  match day.search? s with
  | some m => some ((dayOf m).check.map fun _ => .date (dayOf m))
  | none => (moment.search? s).map fun m => (momentOf m).check.map fun _ => .time (momentOf m)

end Time

/-- What a plain scalar says. -/
inductive Meaning where
  | value (v : Yaml)
  /-- Two arrows: the key under which a table takes in others. -/
  | taking
  /-- An equals sign: a text where a key stands, and nothing elsewhere. -/
  | equals

/-- The meaning of a plain scalar. -/
def meaningOf (s : List Char) : Except Failure Meaning :=
  let text := String.ofList s
  if text == "<<" then .ok .taking
  else if text == "=" then .ok .equals
  else if nullWords.contains text then .ok (.value .null)
  else
    match truthWords.lookup text with
    | some b => .ok (.value (.bool b))
    | none =>
      match real? s, int? s, moment? s with
      | some r, _, _ => r.map fun x => .value (.real x)
      | none, some r, _ => r.map fun n => .value (.int n)
      | none, none, some r => r.map .value
      | none, none, none => .ok (.value (.str text))

end Assay.Yaml.Scalar
