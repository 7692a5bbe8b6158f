import Assay.Text.Class

/-!
# Texts as lists of characters

Trimming, cutting and searching. Everything here works on `List Char`, the view through which the
library reads a `String`; a position or a length is therefore a count of characters.

* `strip`, `stripStart`: blanks taken from the ends;
* `lines`: a text cut at every newline, so a text has one line more than newlines;
* `occursIn`: whether one text stands inside another;
* `clip`, `clipWithin`: a text cut to a limit, with three dots where something was lost;
* `grouped`: an integer with a comma after every three digits;
* `unifyNewlines`: a text with every kind of line end as a newline.
-/

namespace Assay.Text

/-- A text without its leading blanks. -/
def stripStart (s : List Char) : List Char :=
  s.dropWhile isBlank

/-- A text without its trailing blanks. -/
def stripEnd (s : List Char) : List Char :=
  (s.reverse.dropWhile isBlank).reverse

/-- A text without blanks at either end. -/
def strip (s : List Char) : List Char :=
  stripEnd (stripStart s)

/-- A text cut at every newline. -/
def lines (s : List Char) : List (List Char) :=
  s.splitOn '\n'

/-- Whether `part` stands somewhere inside a text. -/
def occursIn (part : List Char) : List Char → Bool
  | [] => part.isEmpty
  | c :: rest => part.isPrefixOf (c :: rest) || occursIn part rest

/-- At most `limit` characters of a text, followed by three dots if any were left out. -/
def clip (s : String) (limit : Nat) : String :=
  if s.length ≤ limit then s else String.ofList (s.toList.take limit) ++ "..."

/-- The same for a limit of either sign: one below zero is the number of characters left out at the
end. -/
def clipWithin (s : String) (limit : Int) : String :=
  if limit < 0 then String.ofList (s.toList.take (s.length - limit.natAbs)) ++ "..."
  else clip s limit.toNat

/-- Digits in groups of three from the right; the list is read from its last digit. -/
def groupDigits : List Char → List Char
  | a :: b :: c :: d :: rest => a :: b :: c :: ',' :: groupDigits (d :: rest)
  | s => s

/-- An integer with a comma after every three digits. -/
def grouped (n : Int) : String :=
  (if n < 0 then "-" else "") ++
    String.ofList (groupDigits (toString n.natAbs).toList.reverse).reverse

/-- A word with its first letter as a capital. -/
def capitalized (s : String) : String :=
  match s.toList with
  | [] => ""
  | c :: rest => String.ofList (c.toUpper :: rest)

/-- The blanks taken from both ends of a string. -/
def trimmed (s : String) : String :=
  String.ofList (strip s.toList)

/-- Whether one string stands inside another. -/
def contains (s part : String) : Bool :=
  occursIn part.toList s.toList

/-- A string cut at every occurrence of a character. -/
def cut (s : String) (at_ : Char) : List String :=
  (s.toList.splitOn at_).map String.ofList

/-- Strings joined with a separator between them. -/
def join (separator : String) (parts : List String) : String :=
  separator.intercalate parts

/-- A text with every kind of line end as a newline; `acc` is the text before, in reverse. -/
def unifyNewlinesFrom : List Char → (acc : List Char) → List Char
  | '\r' :: '\n' :: rest, acc => unifyNewlinesFrom rest ('\n' :: acc)
  | '\r' :: rest, acc => unifyNewlinesFrom rest ('\n' :: acc)
  | c :: rest, acc => unifyNewlinesFrom rest (c :: acc)
  | [], acc => acc.reverse

/-- A text with every kind of line end as a newline. -/
def unifyNewlines (s : List Char) : List Char :=
  unifyNewlinesFrom s []

end Assay.Text
