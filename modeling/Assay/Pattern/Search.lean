import Assay.Pattern.Basic

/-!
# Searching with patterns

* `Pattern.matchAt?`: the preferred match at one place;
* `Pattern.search?`: the leftmost match;
* `Pattern.allMatches`: all matches from left to right, none overlapping another;
* `Pattern.count`: how many those are.

A match that takes no character is followed by a search one place further on.
-/

namespace Assay

/-- A match: where it starts, where it stops and what its groups took. -/
structure Match where
  start : Cursor
  stop : Cursor
  groups : Captures

namespace Match

/-- The matched text. -/
def text (m : Match) : List Char :=
  m.start.textTo m.stop

/-- The text of a group, if the group took part. -/
def group? (m : Match) (n : Nat) : Option (List Char) :=
  m.groups.lookup n

/-- The number of characters taken. -/
def length (m : Match) : Nat :=
  m.stop.pos - m.start.pos

end Match

namespace Pattern

/-- The preferred match at a place. -/
def matchAt? (p : Pattern) (c : Cursor) : Option Match :=
  p.attempt c [] fun d caps => some ⟨c, d, caps⟩

/-- The leftmost match in the rest of a text. -/
def searchFrom (p : Pattern) (pos : Nat) (before : Option Char) (rest : List Char) : Option Match :=
  match p.matchAt? ⟨pos, before, rest⟩ with
  | some m => some m
  | none =>
    match rest with
    | [] => none
    | x :: r => p.searchFrom (pos + 1) (some x) r

/-- The leftmost match. -/
def search? (p : Pattern) (s : List Char) : Option Match :=
  p.searchFrom 0 none s

/-- Whether there is a match. -/
def occursIn (p : Pattern) (s : List Char) : Bool :=
  (p.search? s).isSome

/-- The matches in the rest of a text, when the next `skip` characters belong to the last match
found; the matches already found come first, in reverse. -/
def scan (p : Pattern) (pos : Nat) (before : Option Char) :
    (rest : List Char) → (skip : Nat) → List Match → List Match
  | [], skip, acc =>
    if skip == 0 then
      match p.matchAt? ⟨pos, before, []⟩ with
      | some m => (m :: acc).reverse
      | none => acc.reverse
    else acc.reverse
  | x :: r, skip + 1, acc => p.scan (pos + 1) (some x) r skip acc
  | x :: r, 0, acc =>
    match p.matchAt? ⟨pos, before, x :: r⟩ with
    | some m => p.scan (pos + 1) (some x) r (m.length - 1) (m :: acc)
    | none => p.scan (pos + 1) (some x) r 0 acc

/-- All matches from left to right. -/
def allMatches (p : Pattern) (s : List Char) : List Match :=
  p.scan 0 none s 0 []

/-- The number of matches. -/
def count (p : Pattern) (s : List Char) : Nat :=
  (p.allMatches s).length

end Pattern

end Assay
