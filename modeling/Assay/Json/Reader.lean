import Assay.Json.Value

/-!
# Reading JSON

`Json.read` reads one document and nothing else. It takes the grammar of the standard, with the
three words for infinities and the missing number, and keeps the last value of a repeated key.

A reader returns what it read and the text after it. Where it stops it names the cause and the
text from the fault on, from which `Json.read` finds the line and the column. Two limits are
errors of their own: integers have at most `maxDigits` digits, and arrays and objects are nested
at most `maxDepth` deep.
-/

namespace Assay.Json

/-- The greatest number of digits of an integer. -/
def maxDigits : Nat := 4300

/-- The greatest depth of nesting. -/
def maxDepth : Nat := 995

/-- What is wrong at the place where reading stopped. -/
inductive Cause where
  | noValue
  | noKey
  | noComma
  | noColon
  | trailing
  | openString
  | control
  | badEscape
  | badUnit
  deriving DecidableEq, Repr

/-- The wording of a cause. -/
def Cause.message : Cause → String
  | noValue => "Expecting value"
  | noKey => "Expecting property name enclosed in double quotes"
  | noComma => "Expecting ',' delimiter"
  | noColon => "Expecting ':' delimiter"
  | trailing => "Extra data"
  | openString => "Unterminated string starting at"
  | control => "Invalid control character at"
  | badEscape => "Invalid \\escape"
  | badUnit => "Invalid \\uXXXX escape"

/-- Why a reader stopped. -/
inductive Stop where
  /-- A fault, with the text from there on. -/
  | fault (cause : Cause) (rest : List Char)
  /-- An integer of too many digits. -/
  | digits (n : Nat)
  /-- Nesting too deep, in an array or an object. -/
  | depth (container : String)
  deriving DecidableEq, Repr

/-- Why a text is no document, with places counted in characters: the line and the column from
one, the position from zero. -/
inductive ReadError where
  | malformed (cause : Cause) (line column position : Nat)
  | digitLimit (n : Nat)
  | tooDeep (container : String)
  deriving DecidableEq, Repr

/-- The message for an integer of too many digits. -/
def digitLimitMessage (n : Nat) : String :=
  s!"Exceeds the limit ({maxDigits} digits) for integer string conversion: " ++
    s!"value has {n} digits; use sys.set_int_max_str_digits() to increase the limit"

def ReadError.message : ReadError → String
  | malformed cause line column position =>
    s!"{cause.message}: line {line} column {column} (char {position})"
  | digitLimit n => digitLimitMessage n
  | tooDeep container =>
    s!"maximum recursion depth exceeded while decoding a JSON {container} from a unicode string"

/-- The blanks of the grammar. -/
def isSpace (c : Char) : Bool :=
  c == ' ' || c == '\t' || c == '\n' || c == '\r'

/-- The text after leading blanks. -/
def skipSpace (s : List Char) : List Char :=
  s.dropWhile isSpace

/-- The value of a hexadecimal digit. -/
def hexValue? (c : Char) : Option Nat :=
  if '0' ≤ c && c ≤ '9' then some (c.toNat - 48)
  else if 'a' ≤ c && c ≤ 'f' then some (c.toNat - 87)
  else if 'A' ≤ c && c ≤ 'F' then some (c.toNat - 55)
  else none

/-- Four hexadecimal digits that do not end the text. -/
def unit? : List Char → Option (Nat × List Char)
  | a :: b :: c :: d :: e :: rest => do
    let a ← hexValue? a
    let b ← hexValue? b
    let c ← hexValue? c
    let d ← hexValue? d
    return (((a * 16 + b) * 16 + c) * 16 + d, e :: rest)
  | _ => none

def isHighSurrogate (n : Nat) : Bool :=
  0xD800 ≤ n && n < 0xDC00

def isLowSurrogate (n : Nat) : Bool :=
  0xDC00 ≤ n && n < 0xE000

/-- The character that an escape stands for, from what follows the backslash. -/
def readEscape (s : List Char) : Except Stop (Char × List Char) :=
  match s with
  | 'u' :: r =>
    match unit? r with
    | none => .error (.fault .badUnit s)
    | some (n, r) =>
      if isHighSurrogate n then
        match r with
        | '\\' :: 'u' :: r₂ =>
          match unit? r₂ with
          | none => .error (.fault .badUnit ('u' :: r₂))
          | some (m, r₃) =>
            if isLowSurrogate m then
              .ok (Char.ofNat (0x10000 + (n - 0xD800) * 0x400 + (m - 0xDC00)), r₃)
            else .ok (Text.charOf n, r)
        | _ => .ok (Text.charOf n, r)
      else .ok (Text.charOf n, r)
  | '\x22' :: r => .ok ('\x22', r)
  | '\\' :: r => .ok ('\\', r)
  | '/' :: r => .ok ('/', r)
  | 'b' :: r => .ok (Char.ofNat 8, r)
  | 'f' :: r => .ok (Char.ofNat 12, r)
  | 'n' :: r => .ok ('\n', r)
  | 'r' :: r => .ok ('\r', r)
  | 't' :: r => .ok ('\t', r)
  | _ => .error (.fault .badEscape ('\\' :: s))

/-- The rest of a string whose opening quote starts `whole`; `fuel` is at least the number of
characters left. -/
def readString (whole : List Char) : (fuel : Nat) → List Char → List Char →
    Except Stop (List Char × List Char)
  | 0, _, _ => .error (.fault .openString whole)
  | _, [], _ => .error (.fault .openString whole)
  | fuel + 1, c :: r, acc =>
    if c == '\x22' then .ok (acc.reverse, r)
    else if c == '\\' then
      if r.isEmpty then .error (.fault .openString whole)
      else
        match readEscape r with
        | .ok (x, r') => readString whole fuel r' (x :: acc)
        | .error e => .error e
    else if c.toNat < 32 then .error (.fault .control (c :: r))
    else readString whole fuel r (c :: acc)

/-- The value of a text of decimal digits. -/
def natOfDigits (ds : List Char) : Nat :=
  ds.foldl (fun n d => 10 * n + (d.toNat - 48)) 0

/-- The digits after a point, only if there is one, and the text after them. -/
def readFraction (s : List Char) : List Char × List Char :=
  match s with
  | '.' :: r =>
    let ds := r.takeWhile Char.isDigit
    if ds.isEmpty then ([], s) else (ds, r.dropWhile Char.isDigit)
  | _ => ([], s)

/-- The sign of an exponent, and the text after it. -/
def readSign : List Char → Bool × List Char
  | '+' :: r => (false, r)
  | '-' :: r => (true, r)
  | s => (false, s)

/-- An exponent, if it has a digit, and the text after it. -/
def readExponent (s : List Char) : Option Int × List Char :=
  match s with
  | e :: r =>
    let (negative, r) := readSign r
    let ds := r.takeWhile Char.isDigit
    if (e == 'e' || e == 'E') && !ds.isEmpty then
      let n : Int := natOfDigits ds
      (some (if negative then -n else n), r.dropWhile Char.isDigit)
    else (none, s)
  | [] => (none, s)

/-- The digits of an integer at the start of a text; none follow a leading zero. -/
def leadingDigits (s : List Char) : List Char :=
  match s with
  | '0' :: _ => ['0']
  | _ => s.takeWhile Char.isDigit

/-- A number after its sign, where `whole` starts with the sign. -/
def readNumber (whole : List Char) (negative : Bool) (s : List Char) :
    Except Stop (Json × List Char) :=
  let digits := leadingDigits s
  if digits.isEmpty then .error (.fault .noValue whole)
  else
    let (fraction, rest) := readFraction (s.drop digits.length)
    let (power, rest) := readExponent rest
    if fraction.isEmpty && power.isNone then
      if maxDigits < digits.length then .error (.digits digits.length)
      else
        let n : Int := natOfDigits digits
        .ok (int (if negative then -n else n), rest)
    else
      let x := FloatValue.ofScaled (natOfDigits (digits ++ fraction))
        (power.getD 0 - fraction.length)
      .ok (real (if negative then x.negate else x), rest)

/-- The words that are values. -/
def readWord (s : List Char) : Except Stop (Json × List Char) :=
  if "null".toList.isPrefixOf s then .ok (null, s.drop 4)
  else if "true".toList.isPrefixOf s then .ok (bool true, s.drop 4)
  else if "false".toList.isPrefixOf s then .ok (bool false, s.drop 5)
  else if "NaN".toList.isPrefixOf s then .ok (real .undefined, s.drop 3)
  else if "Infinity".toList.isPrefixOf s then .ok (real (.infinite false), s.drop 8)
  else if "-Infinity".toList.isPrefixOf s then .ok (real (.infinite true), s.drop 9)
  else
    match s with
    | '-' :: r => readNumber s true r
    | _ => readNumber s false s

mutual

/-- A value at the start of a text. `fuel` is at least twice the length of the text, and `depth`
is how much deeper nesting may go. -/
def readValue : (fuel depth : Nat) → List Char → Except Stop (Json × List Char)
  | 0, _, s => .error (.fault .noValue s)
  | fuel + 1, depth, s =>
    match s with
    | '\x22' :: r => do
      let (cs, rest) ← readString s fuel r []
      return (str (String.ofList cs), rest)
    | '[' :: r =>
      match depth with
      | 0 => .error (.depth "array")
      | depth + 1 =>
        match skipSpace r with
        | ']' :: rest => .ok (arr [], rest)
        | inner => readItems fuel depth inner []
    | '\x7b' :: r =>
      match depth with
      | 0 => .error (.depth "object")
      | depth + 1 =>
        match skipSpace r with
        | '\x7d' :: rest => .ok (obj [], rest)
        | inner => readFields fuel depth inner []
    | _ => readWord s

/-- The items of an array from one of them on, the earlier ones given in reverse. -/
def readItems : (fuel depth : Nat) → List Char → List Json → Except Stop (Json × List Char)
  | 0, _, s, _ => .error (.fault .noValue s)
  | fuel + 1, depth, s, acc =>
    match readValue fuel depth s with
    | .error e => .error e
    | .ok (v, rest) =>
      match skipSpace rest with
      | ']' :: rest => .ok (arr (v :: acc).reverse, rest)
      | ',' :: rest => readItems fuel depth (skipSpace rest) (v :: acc)
      | rest => .error (.fault .noComma rest)

/-- The fields of an object from one of them on. -/
def readFields : (fuel depth : Nat) → List Char → List (String × Json) →
    Except Stop (Json × List Char)
  | 0, _, s, _ => .error (.fault .noKey s)
  | fuel + 1, depth, s, acc =>
    match s with
    | '\x22' :: r =>
      match readString s fuel r [] with
      | .error e => .error e
      | .ok (key, rest) =>
        match skipSpace rest with
        | ':' :: rest =>
          match readValue fuel depth (skipSpace rest) with
          | .error e => .error e
          | .ok (v, rest) =>
            let fields := insertField (String.ofList key) v acc
            match skipSpace rest with
            | '\x7d' :: rest => .ok (obj fields, rest)
            | ',' :: rest => readFields fuel depth (skipSpace rest) fields
            | rest => .error (.fault .noComma rest)
        | rest => .error (.fault .noColon rest)
    | _ => .error (.fault .noKey s)

end

/-- One document, with blanks around it and nothing else. -/
def readDocument (s : List Char) : Except Stop Json :=
  match readValue (2 * s.length + 2) maxDepth (skipSpace s) with
  | .error e => .error e
  | .ok (v, rest) =>
    match skipSpace rest with
    | [] => .ok v
    | rest => .error (.fault .trailing rest)

/-- The place of a fault in a text. -/
def Stop.locate (s : List Char) : Stop → ReadError
  | fault cause rest =>
    let before := s.take (s.length - rest.length)
    .malformed cause (before.count '\n' + 1)
      ((before.reverse.takeWhile (· != '\n')).length + 1) before.length
  | digits n => .digitLimit n
  | depth container => .tooDeep container

/-- Reads a document. -/
def read (s : List Char) : Except ReadError Json :=
  (readDocument s).mapError (Stop.locate s)

end Assay.Json
