import Assay.Text.Encoding.Stateful
import Assay.Text.Numeral

/-!
# Escapes after backslashes

Each byte is the number of its character, and a backslash starts an escape.

* `escaped`: the escapes of a text between quotes;
* `unitEscaped`: only escapes by the number of a character.
-/

namespace Assay.Text

/-- The characters that letters after a backslash stand for. -/
def letterEscapes : List (Char × Char) :=
  [('\\', '\\'), ('\'', '\''), ('\x22', '\x22'), ('b', '\x08'), ('f', '\x0c'), ('t', '\t'),
   ('n', '\n'), ('r', '\r'), ('v', '\x0b'), ('a', '\x07')]

/-- How many hexadecimal digits follow a letter. -/
def digitEscapes : List (Char × Nat) :=
  [('x', 2), ('u', 4), ('U', 8)]

/-- An octal digit. -/
def isOctal (c : Char) : Bool :=
  '0' ≤ c && c ≤ '7'

/-- The number of some digits. -/
def numberIn (base : Nat) (digits : List Char) : Nat :=
  digits.foldl (fun n c => base * n + (hexValue? c).getD 0) 0

/-- The character of a number, if there is one. -/
def ofNumber (n : Nat) : Char :=
  if n < 0x110000 then charOf n else replacement

/-- An escape with a number of digits after its letter. It ends before the first character that is
none. -/
def digitTurn (count : Nat) (rest : List Char) : Turn Unit :=
  let digits := (rest.take count).takeWhile fun c => (hexValue? c).isSome
  if digits.length = count then ⟨2 + count, [ofNumber (numberIn 16 digits)], ()⟩
  else ⟨2 + digits.length, [replacement], ()⟩

/-- The escape of a character by its name, which is not known here. -/
def nameTurn : List Char → Turn Unit
  | '\x7b' :: rest =>
    let name := rest.takeWhile (· != '\x7d')
    if name.length = rest.length then ⟨3 + name.length, [replacement], ()⟩
    else if name.isEmpty then ⟨3, [replacement], ()⟩
    else ⟨4 + name.length, [replacement], ()⟩
  | _ => ⟨2, [replacement], ()⟩

/-- An escape, from what follows its backslash. -/
def backslashTurn : List Char → Turn Unit
  | [] => ⟨1, [replacement], ()⟩
  | '\n' :: _ => ⟨2, [], ()⟩
  | 'N' :: rest => nameTurn rest
  | c :: rest =>
    if isOctal c then
      let digits := c :: (rest.take 2).takeWhile isOctal
      ⟨1 + digits.length, [ofNumber (numberIn 8 digits)], ()⟩
    else
      match letterEscapes.lookup c with
      | some x => ⟨2, [x], ()⟩
      | none =>
        match digitEscapes.lookup c with
        | some count => digitTurn count rest
        | none => ⟨2, ['\\', c], ()⟩

/-- The characters with the numbers of some bytes. -/
def charsOf (bytes : List UInt8) : List Char :=
  bytes.map fun b => Char.ofNat b.toNat

/-- The most characters of an escape after its backslash; a name may have more. -/
def maxEscape : Nat := 9

/-- The escapes of a text between quotes. -/
def escaped : Machine Unit where
  start := ()
  turn _ b rest :=
    if b = 0x5C then
      backslashTurn (charsOf (if rest.head? = some 0x4E then rest else rest.take maxEscape))
    else ⟨1, [Char.ofNat b.toNat], ()⟩
  finish _ := []

/-- Only escapes by the number of a character. A backslash before another stands for itself, as the
other does. -/
def unitEscaped : Machine Unit where
  start := ()
  turn _ b rest :=
    let c := Char.ofNat b.toNat
    match charsOf (rest.take maxEscape) with
    | 'u' :: more => if c = '\\' then digitTurn 4 more else ⟨1, [c], ()⟩
    | 'U' :: more => if c = '\\' then digitTurn 8 more else ⟨1, [c], ()⟩
    | '\\' :: _ => if c = '\\' then ⟨2, ['\\', '\\'], ()⟩ else ⟨1, [c], ()⟩
    | _ => ⟨1, [c], ()⟩
  finish _ := []

end Assay.Text
